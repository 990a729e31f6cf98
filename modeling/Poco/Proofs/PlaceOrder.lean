import Mathlib.Data.List.DropRight
import Poco.Proofs.Reports

namespace Poco

open Alphabet (quote recognizes)
open Glyph (behind allBehind)

namespace Position

/-- On an earlier line, or in an earlier column of the same line. -/
def ReadsBefore (first second : Position) : Prop :=
  Prod.Lex (· < ·) (· < ·) (first.line, first.column) (second.line, second.column)

theorem readsBefore_iff {first second : Position} : first.ReadsBefore second ↔
    first.line < second.line ∨ first.line = second.line ∧ first.column < second.column :=
  Prod.lex_def

theorem ReadsBefore.asymm {first second : Position} (before : first.ReadsBefore second) :
    ¬ second.ReadsBefore first := by
  rw [readsBefore_iff] at before ⊢
  rintro (earlier | ⟨line, column⟩)
  · rcases before with later | ⟨same, -⟩
    · exact UInt32.lt_asymm earlier later
    · exact UInt32.lt_irrefl _ (same ▸ earlier)
  · rcases before with later | ⟨-, later⟩
    · exact UInt32.lt_irrefl _ (line ▸ later)
    · exact UInt32.lt_asymm column later

theorem ReadsBefore.apart {first second : Position} (before : first.ReadsBefore second) :
    (first.line, first.column) ≠ (second.line, second.column) := by
  intro same
  have back : second.ReadsBefore first := by
    rw [ReadsBefore, ← same]
    rwa [ReadsBefore, ← same] at before
  exact before.asymm back

theorem readsBefore_append {text piece : List Char}
    (short : (text ++ piece).length ≤ UInt32.size - 2) (nonempty : piece ≠ []) :
    (after text).ReadsBefore (after (text ++ piece)) := by
  have textShort := short_front short
  rw [readsBefore_iff]
  by_cases newline : '\n' ∈ piece
  · left
    have breaks := List.count_pos_iff.mpr newline
    rw [UInt32.lt_iff_toNat_lt, after_line textShort, after_line short]
    simp only [lineAfter, List.count_append]
    omega
  · right
    have longer := List.length_pos_iff.mpr nonempty
    constructor
    · exact (after_line_eq_iff short).mpr newline
    · rw [UInt32.lt_iff_toNat_lt, after_column textShort, after_column short,
        columnAfter_append newline]
      omega

/-- Whatever grows along a text and never holds both ways tells which of two prefixes is the
shorter one. -/
theorem length_lt_iff {source front back : List Char} (Before : Position → Position → Prop)
    (grows : ∀ text piece, (text ++ piece).length ≤ UInt32.size - 2 → piece ≠ [] →
      Before (after text) (after (text ++ piece)))
    (asymm : ∀ first second, Before first second → ¬ Before second first)
    (short : source.length ≤ UInt32.size - 2) (first : front <+: source)
    (second : back <+: source) :
    front.length < back.length ↔ Before (after front) (after back) := by
  have frontShort := Nat.le_trans first.length_le short
  have backShort := Nat.le_trans second.length_le short
  rcases List.prefix_or_prefix_of_prefix first second with ⟨piece, rfl⟩ | ⟨piece, rfl⟩
  · cases piece with
    | nil =>
        have never : ¬ Before (after front) (after front) := fun same => asymm _ _ same same
        simpa using never
    | cons c piece =>
        have before := grows front (c :: piece) backShort (List.cons_ne_nil _ _)
        simpa using before
  · have notLonger : ¬ (back ++ piece).length < back.length := by
      rw [List.length_append]
      omega
    refine ⟨fun longer => absurd longer notLonger, ?_⟩
    intro before
    cases piece with
    | nil =>
        rw [List.append_nil] at before
        exact absurd before (asymm _ _ before)
    | cons c piece =>
        exact absurd before (asymm _ _ (grows back (c :: piece) frontShort (List.cons_ne_nil _ _)))

/-- The position counts the bytes of `text`, its newlines and the characters behind the last one. -/
structure Measures (position : Position) (text : List Char) : Prop where
  offset : position.offset.toNat = (String.ofList text).utf8ByteSize
  line : position.line.toNat = 1 + text.count '\n'
  column : position.column.toNat = 1 + (text.rtakeWhile (· != '\n')).length

theorem measures_after {text : List Char} (short : text.length ≤ UInt32.size - 2) :
    (after text).Measures text where
  offset := by rw [after_offset short, Text.byteSize_eq]
  line := by rw [after_line short, lineAfter, Nat.add_comm]
  column := by
    rw [after_column short, columnAfter, List.rtakeWhile, List.length_reverse, Nat.add_comm]

end Position

theorem Glyph.pairwise_readsBefore (before text : List Char)
    (short : (before ++ text).length ≤ UInt32.size - 2) :
    (allBehind before text).Pairwise fun earlier later =>
      earlier.span.start.ReadsBefore later.span.start := by
  induction text generalizing before with
  | nil => exact .nil
  | cons c rest ih =>
      have regrouped : before ++ c :: rest = before ++ [c] ++ rest := by simp
      rw [regrouped] at short
      refine .cons ?_ (ih (before ++ [c]) short)
      intro glyph member
      obtain ⟨passed, d, more, rfl, rfl⟩ := Glyph.mem_allBehind.mp member
      have reached : before ++ [c] ++ passed = before ++ c :: passed := by simp
      have passedShort : (before ++ c :: passed).length ≤ UInt32.size - 2 := by
        rw [← reached]
        rw [← List.append_assoc] at short
        exact Position.short_front short
      rw [reached]
      exact Position.readsBefore_append passedShort (List.cons_ne_nil _ _)

section Diagnostics

variable {preferences : LexicalPreferences} {source : List Char}

theorem Diagnostic.pairwise_refusals (short : source.length ≤ UInt32.size - 2) :
    (refusals source).Pairwise fun earlier later =>
      (earlier.line, earlier.column) ≠ (later.line, later.column) := by
  have inOrder := (Glyph.pairwise_readsBefore [] source short).filter
    fun glyph => !recognizes glyph.char
  exact List.pairwise_map.mpr (inOrder.imp fun before => before.apart)

/-- No character outside the alphabet stands where a quote does. -/
theorem Diagnostic.refusal_apart {before rest : List Char} {diagnostic : Diagnostic}
    (short : source.length ≤ UInt32.size - 2) (split : source = before ++ quote :: rest)
    (member : diagnostic ∈ refusals source) :
    (diagnostic.line, diagnostic.column) ≠
      ((Position.after before).line, (Position.after before).column) := by
  obtain ⟨glyph, among, rfl⟩ := List.mem_map.mp member
  obtain ⟨inside, foreign⟩ := List.mem_filter.mp among
  obtain ⟨passed, c, more, parts, rfl⟩ := Glyph.mem_allBehind.mp inside
  intro same
  obtain ⟨line, column⟩ := Prod.mk.inj same
  obtain rfl : passed = before :=
    Position.prefix_eq_of_same_place short ⟨_, parts.symm⟩ ⟨_, split.symm⟩ line column
  have character := List.append_cancel_left (parts.symm.trans split)
  obtain rfl : c = quote := (List.cons.inj character).1
  have known : recognizes quote = true := by decide
  simp [known] at foreign

theorem Run.Reports.pairwise_apart {run : Run} (reports : run.Reports source)
    (short : source.length ≤ UInt32.size - 2) :
    run.diagnostics.Pairwise fun earlier later =>
      (earlier.line, earlier.column) ≠ (later.line, later.column) := by
  have refusals := Diagnostic.pairwise_refusals short
  rcases Nat.mod_two_eq_zero_or_one (source.count quote) with paired | unpaired
  · rw [reports.paired paired]
    exact refusals
  · obtain ⟨before, rest, split, -, diagnostics⟩ := reports.unpaired unpaired
    rw [diagnostics]
    refine List.pairwise_append.mpr ⟨refusals, List.pairwise_singleton _ _, ?_⟩
    intro refused member unclosed last
    obtain rfl := List.mem_singleton.mp last
    exact Diagnostic.refusal_apart short split member

theorem Run.pairwise_apart (short : source.length ≤ UInt32.size - 2) :
    (whole preferences source).diagnostics.Pairwise fun earlier later =>
      (earlier.line, earlier.column) ≠ (later.line, later.column) := by
  by_cases known : ∀ c ∈ source, recognizes c = true
  · rw [← whole_policy_irrelevant .resynchronize known]
    exact (reports_whole rfl).pairwise_apart short
  · cases policy : preferences.recoveryPolicy with
    | resynchronize => exact (reports_whole policy).pairwise_apart short
    | halt =>
        obtain ⟨before, c, rest, split, knownBefore, foreign⟩ :=
          Alphabet.exists_first_foreign known
        rw [(reportsHalt_whole policy split knownBefore foreign).refused]
        exact List.pairwise_singleton _ _

end Diagnostics

theorem places_order_prefixes (source : String) (short : source.length ≤ UInt32.size - 2) :
    (∀ front back, front <+: source.toList → back <+: source.toList →
      ∃ first second, Position.start.advanceOver front = .ok first ∧
        Position.start.advanceOver back = .ok second ∧
        first.Measures front ∧ second.Measures back ∧
        (front.length < back.length ↔ first.offset < second.offset) ∧
        (first.offset < second.offset ↔ first.ReadsBefore second)) ∧
      ∀ preferences, ∃ run, tokenize preferences source = .ok run ∧
        run.diagnostics.Pairwise fun earlier later =>
          (earlier.line, earlier.column) ≠ (later.line, later.column) := by
  have listShort : source.toList.length ≤ UInt32.size - 2 := by
    rw [String.length_toList]
    exact short
  constructor
  · intro front back isFront isBack
    have frontShort := Nat.le_trans isFront.length_le listShort
    have backShort := Nat.le_trans isBack.length_le listShort
    have byOffset := Position.length_lt_iff (fun first second => first.offset < second.offset)
      (fun _ _ => Position.after_offset_lt) (fun _ _ => UInt64.lt_asymm) listShort isFront isBack
    have byPlace := Position.length_lt_iff Position.ReadsBefore
      (fun _ _ => Position.readsBefore_append) (fun _ _ => Position.ReadsBefore.asymm) listShort
      isFront isBack
    exact ⟨_, _, Position.advanceOver_start frontShort, Position.advanceOver_start backShort,
      Position.measures_after frontShort, Position.measures_after backShort, byOffset,
      byOffset.symm.trans byPlace⟩
  · intro preferences
    exact ⟨_, tokenize_eq preferences short, Run.pairwise_apart listShort⟩

theorem places_order_prefixes_mixed :
    "é\n\u2003@\n'x𝄞".length ≤ UInt32.size - 2 ∧
      "é\n\u2003".toList <+: "é\n\u2003@\n'x𝄞".toList ∧
      "é\n\u2003@\n".toList <+: "é\n\u2003@\n'x𝄞".toList ∧
      (∃ first second, Position.start.advanceOver "é\n\u2003".toList = .ok first ∧
        Position.start.advanceOver "é\n\u2003@\n".toList = .ok second ∧
        first.Measures "é\n\u2003".toList ∧ second.Measures "é\n\u2003@\n".toList ∧
        ("é\n\u2003".toList.length < "é\n\u2003@\n".toList.length ↔
          first.offset < second.offset) ∧
        (first.offset < second.offset ↔ first.ReadsBefore second)) ∧
      ∀ preferences, ∃ run, tokenize preferences "é\n\u2003@\n'x𝄞" = .ok run ∧
        run.diagnostics.Pairwise fun earlier later =>
          (earlier.line, earlier.column) ≠ (later.line, later.column) :=
  ⟨by decide, by decide, by decide,
    (places_order_prefixes "é\n\u2003@\n'x𝄞" (by decide)).1 _ _ (by decide) (by decide),
    (places_order_prefixes "é\n\u2003@\n'x𝄞" (by decide)).2⟩

end Poco
