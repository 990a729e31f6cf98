import Poco.Cli.Report
import Poco.Proofs.Running
import Poco.Proofs.SourceLines

namespace Poco

open Glyph (behind)
open Position (lineAfter short_front)

section Character

variable {before rest : List Char} {c : Char}
  (short : (before ++ c :: rest).length ≤ UInt32.size - 2)

include short

theorem Span.single_after : Span.single (.after before) c = .ok (behind before c).span := by
  have regrouped : before ++ c :: rest = before ++ [c] ++ rest := by simp
  rw [regrouped] at short
  rw [Span.single, Position.advance_after (short_front short)]
  rfl

theorem Span.slice_behind :
    (behind before c).span.slice (before ++ c :: rest) = some [c] := by
  have regrouped : before ++ c :: rest = before ++ [c] ++ rest := by simp
  rw [regrouped] at short ⊢
  have pieceShort := short_front short
  have beforeShort := short_front pieceShort
  rw [Span.slice, behind, Position.after_offset beforeShort, Position.after_offset pieceShort]
  exact Text.sliceBytes_byteSize before [c] rest

end Character

namespace LineIndex

/-- `span` is that of the character in a column of the first line of `text`, which stands
behind `before`. -/
def InColumn (column : UInt32) (before text : List Char) (span : Span) : Prop :=
  ∃ passed c rest, text = passed ++ c :: rest ∧ '\n' ∉ passed ∧
    (Position.after (before ++ passed)).column = column ∧
    span = (behind (before ++ passed) c).span

section InColumn

variable {column : UInt32} {before rest : List Char} {c : Char} {span : Span}

theorem inColumn_cons_here (short : (before ++ c :: rest).length ≤ UInt32.size - 2)
    (here : (Position.after before).column = column) :
    InColumn column before (c :: rest) span ↔ span = (behind before c).span := by
  constructor
  · rintro ⟨passed, d, more, split, sameLine, there, rfl⟩
    have passedShort : (before ++ passed).length ≤ UInt32.size - 2 := by
      rw [split, ← List.append_assoc] at short
      exact short_front short
    have columns := congrArg UInt32.toNat (there.trans here.symm)
    rw [Position.after_column passedShort, Position.after_column (short_front short)] at columns
    obtain rfl := Position.eq_nil_of_same_column sameLine columns
    obtain ⟨rfl, -⟩ := List.cons.inj split
    rw [List.append_nil]
  · rintro rfl
    exact ⟨[], c, rest, rfl, by simp, by simpa using here, by simp⟩

variable (elsewhere : (Position.after before).column ≠ column)

include elsewhere

theorem inColumn_cons_later : InColumn column before (c :: rest) span ↔
    c ≠ '\n' ∧ InColumn column (before ++ [c]) rest span := by
  constructor
  · rintro ⟨passed, d, more, split, sameLine, there, rfl⟩
    cases passed with
    | nil => exact absurd (by simpa using there) elsewhere
    | cons e others =>
        obtain ⟨rfl, rfl⟩ := List.cons.inj split
        obtain ⟨notFirst, notLater⟩ := not_or.mp (mt List.mem_cons.mpr sameLine)
        exact ⟨Ne.symm notFirst, others, d, more, rfl, notLater, by simpa using there, by simp⟩
  · rintro ⟨notNewline, passed, d, more, rfl, sameLine, there, rfl⟩
    exact ⟨c :: passed, d, more, rfl, by simpa [Ne.symm notNewline] using sameLine,
      by simpa using there, by simp⟩

end InColumn

/-- A walk along a text finds the character in a column of its first line, if there is one. -/
theorem findColumn_spec {before text : List Char}
    (short : (before ++ text).length ≤ UInt32.size - 2) (column : UInt32) :
    ∃ found, findColumn column (.after before) text = .ok found ∧
      ∀ span, found = some span ↔ InColumn column before text span := by
  induction text generalizing before with
  | nil => exact ⟨none, rfl, by simp [InColumn]⟩
  | cons c rest ih =>
      rw [findColumn]
      by_cases here : (Position.after before).column = column
      · refine ⟨some (behind before c).span, by rw [if_pos here, Span.single_after short]; rfl, ?_⟩
        intro span
        rw [inColumn_cons_here short here, Option.some_inj, eq_comm]
      · rw [if_neg here]
        by_cases newline : c = '\n'
        · refine ⟨none, if_pos newline, ?_⟩
          simp [inColumn_cons_later here, newline]
        · have regrouped : before ++ c :: rest = before ++ [c] ++ rest := by simp
          rw [regrouped] at short
          have advanced := Position.advance_after
            (short_front short)
          obtain ⟨found, ran, spec⟩ := ih short
          refine ⟨found, by rw [if_neg newline, advanced]; exact ran, ?_⟩
          intro span
          rw [spec, inColumn_cons_later here]
          simp [newline]

variable {source before rest : List Char} {line : SourceLine} {number : UInt32}

/-- The search at a line and a column is one along that line and its newline. -/
theorem spanAt?_eq (found : (ofSource source).line? number = some line)
    (stands : line.Behind source before rest) (counted : lineAfter before = number.toNat)
    (column : UInt32) :
    (ofSource source).spanAt? number column =
      findColumn column (.after before) (line.text ++ rest.take 1) := by
  have place : Position.after before =
      { offset := .ofNat line.start, line := number, column := 1 } := by
    rw [Position.after, counted, stands.begins, ← stands.start]
    simp
  have newline : (if number.toNat < (ofSource source).lines.size then ['\n'] else []) =
      rest.take 1 := by
    rw [← lineCount, lineCount_ofSource, ← counted]
    rcases stands.ends with rfl | ⟨below, rfl⟩
    · exact if_neg fun inside => stands.last_iff.mp inside rfl
    · exact if_pos (stands.last_iff.mpr (List.cons_ne_nil _ _))
  rw [spanAt?, found, place, ← newline]

theorem spanAt?_total (short : source.length ≤ UInt32.size - 2) (column : UInt32) :
    ∃ found, (ofSource source).spanAt? number column = .ok found := by
  cases lookup : (ofSource source).line? number with
  | none => exact ⟨none, by rw [spanAt?, lookup]⟩
  | some line =>
      obtain ⟨before, rest, stands, counted⟩ := behind_of_line? lookup
      obtain ⟨found, ran, -⟩ := findColumn_spec (stands.short short) column
      exact ⟨found, by rw [spanAt?_eq lookup stands counted, ran]⟩

/-- What is found stands at the line and the column that were asked for. -/
theorem spanAt?_sound (short : source.length ≤ UInt32.size - 2) {column : UInt32} {span : Span}
    (found : (ofSource source).spanAt? number column = .ok (some span)) :
    ∃ before c rest, source = before ++ c :: rest ∧ span = (behind before c).span ∧
      (Position.after before).line = number ∧ (Position.after before).column = column := by
  cases lookup : (ofSource source).line? number with
  | none => simp [spanAt?, lookup] at found
  | some line =>
      obtain ⟨before, rest, stands, counted⟩ := behind_of_line? lookup
      obtain ⟨_, ran, spec⟩ := findColumn_spec (stands.short short) column
      rw [spanAt?_eq lookup stands counted, ran] at found
      obtain ⟨passed, c, more, split, sameLine, there, rfl⟩ := (spec span).mp (Except.ok.inj found)
      refine ⟨before ++ passed, c, more ++ rest.drop 1, ?_, rfl, ?_, there⟩
      · rw [stands.split_newline, split]
        simp
      · simp [Position.after, Position.lineAfter_append_iff.mpr sameLine, counted]

/-- The line of a place is there, and has its number. -/
theorem line?_after (short : source.length ≤ UInt32.size - 2) (split : source = before ++ rest) :
    ∃ line above below, (ofSource source).line? (Position.after before).line = some line ∧
      line.Behind source above below ∧ lineAfter above = (Position.after before).line.toNat ∧
      lineAfter before = lineAfter above := by
  have beforeShort : before.length ≤ UInt32.size - 2 :=
    Nat.le_trans (List.IsPrefix.length_le ⟨rest, split.symm⟩) short
  have number := Position.after_line beforeShort
  have within : lineAfter before ≤ source.count '\n' + 1 := by
    rw [split, lineAfter, List.count_append]
    omega
  obtain ⟨line, lookup⟩ := line?_exists source (Position.after before).line
    (by rw [number]; exact Nat.succ_pos _) (by rw [number]; exact within)
  obtain ⟨above, below, stands, counted⟩ := behind_of_line? lookup
  exact ⟨line, above, below, lookup, stands, counted, by rw [counted, number]⟩

/-- Every character is found at its line and column. -/
theorem spanAt?_complete (short : source.length ≤ UInt32.size - 2) {c : Char}
    (split : source = before ++ c :: rest) :
    (ofSource source).spanAt? (Position.after before).line (Position.after before).column =
      .ok (some (behind before c).span) := by
  obtain ⟨line, above, below, lookup, stands, counted, number⟩ := line?_after short split
  obtain ⟨passed, more, rfl, sameLine, text⟩ := stands.holds split number
  obtain ⟨found, ran, spec⟩ := findColumn_spec (stands.short short)
    (Position.after (above ++ passed)).column
  rw [spanAt?_eq lookup stands counted, ran, (spec _).mpr ⟨passed, c, more, text, sameLine, rfl, rfl⟩]

/-- Finding characters by line and column undoes walking to them. -/
structure Inverts (index : LineIndex) (source : List Char) : Prop where
  total : ∀ line column, ∃ found, index.spanAt? line column = .ok found
  sound : ∀ line column span, index.spanAt? line column = .ok (some span) →
    ∃ before c rest, source = before ++ c :: rest ∧
      Position.start.advanceOver before = .ok span.start ∧
      span.start.line = line ∧ span.start.column = column ∧
      Span.single span.start c = .ok span ∧ span.slice source = some [c]
  complete : ∀ before c rest, source = before ++ c :: rest →
    ∃ place span, Position.start.advanceOver before = .ok place ∧
      Span.single place c = .ok span ∧ index.spanAt? place.line place.column = .ok (some span)

theorem inverts_ofSource (short : source.length ≤ UInt32.size - 2) :
    (ofSource source).Inverts source where
  total := fun _ column => spanAt?_total short column
  sound := by
    intro line column span found
    obtain ⟨before, c, rest, rfl, rfl, atLine, atColumn⟩ := spanAt?_sound short found
    have beforeShort := short_front short
    exact ⟨before, c, rest, rfl, Position.advanceOver_start beforeShort, atLine, atColumn,
      Span.single_after short, Span.slice_behind short⟩
  complete := by
    rintro before c rest rfl
    have beforeShort := short_front short
    exact ⟨_, _, Position.advanceOver_start beforeShort, Span.single_after short,
      spanAt?_complete short rfl⟩

end LineIndex

/-- The place of the diagnostic is found, and its line is shown with it. -/
def Diagnostic.ShownIn (diagnostic : Diagnostic) (index : LineIndex) : Prop :=
  ∃ code span, diagnostic.code? = some code ∧
    index.spanAt? diagnostic.line diagnostic.column = .ok (some span) ∧
    Cli.renderDiagnostic index diagnostic =
      .ok (index.underline span ("[" ++ code ++ "] " ++ diagnostic.message))

theorem Run.shownIn_of_mem {preferences : LexicalPreferences} {source : List Char}
    {diagnostic : Diagnostic} (short : source.length ≤ UInt32.size - 2)
    (member : diagnostic ∈ (whole preferences source).diagnostics) :
    diagnostic.ShownIn (.ofSource source) := by
  obtain ⟨before, c, rest, split, line, column⟩ := place_of_diagnostic member
  have found := LineIndex.spanAt?_complete short split
  rw [← line, ← column] at found
  obtain ⟨error, -, rfl⟩ := List.mem_map.mp member
  refine ⟨error.code, _, rfl, found, ?_⟩
  rw [Cli.renderDiagnostic, found]
  rfl

theorem lineIndex_inverts_positions (source : String)
    (short : source.length ≤ UInt32.size - 2) :
    (LineIndex.ofSource source.toList).Inverts source.toList ∧
      ∀ preferences, ∃ run, tokenize preferences source = .ok run ∧
        ∀ diagnostic ∈ run.diagnostics,
          diagnostic.ShownIn (.ofSource source.toList) := by
  have listShort : source.toList.length ≤ UInt32.size - 2 := by rw [String.length_toList]; exact short
  refine ⟨LineIndex.inverts_ofSource listShort, ?_⟩
  intro preferences
  exact ⟨_, tokenize_eq preferences short, fun _ => Run.shownIn_of_mem listShort⟩

theorem lineIndex_inverts_positions_mixed :
    "a\r\n\té@\n\n'x\u2003\n".length ≤ UInt32.size - 2 ∧
      (LineIndex.ofSource "a\r\n\té@\n\n'x\u2003\n".toList).Inverts
          "a\r\n\té@\n\n'x\u2003\n".toList ∧
        ∀ preferences, ∃ run, tokenize preferences "a\r\n\té@\n\n'x\u2003\n" = .ok run ∧
          ∀ diagnostic ∈ run.diagnostics,
            diagnostic.ShownIn (.ofSource "a\r\n\té@\n\n'x\u2003\n".toList) :=
  ⟨by decide, lineIndex_inverts_positions "a\r\n\té@\n\n'x\u2003\n" (by decide)⟩

end Poco
