import Mathlib.Data.List.TakeWhile
import Poco.Proofs.Running
import Poco.Proofs.Walk

namespace Poco

namespace Glyph

/-- Characters as a scan leaves them: in order, and with places that can be worked out anew. -/
structure Settled (glyphs : List Glyph) : Prop where
  inOrder : InOrder glyphs
  genuine : ∀ glyph ∈ glyphs, glyph.Genuine
  placed : ∀ glyph ∈ glyphs, glyph.span.start.advance glyph.char = .ok glyph.span.stop

theorem Settled.sublist {part whole : List Glyph} (settled : Settled whole)
    (within : part.Sublist whole) : Settled part where
  inOrder := settled.inOrder.sublist within
  genuine glyph member := settled.genuine glyph (within.subset member)
  placed glyph member := settled.placed glyph (within.subset member)

theorem settled_keptGlyphs (policy : RecoveryPolicy) {source : List Char}
    (short : source.length ≤ UInt32.size - 2) : Settled (Scan.keptGlyphs policy [] source) where
  inOrder := by
    rw [← Lexeme.flatMap_glyphs_ofSource]
    exact Lexeme.inOrder_ofSource policy short
  genuine := Lexeme.genuine_keptGlyphs policy [] source
  placed := by
    intro glyph member
    obtain ⟨before, c, rest, rfl, rfl, -⟩ := Scan.behind_of_mem_keptGlyphs member
    refine Position.advance_after ?_
    simp only [List.length_append, List.length_cons, List.length_nil] at short ⊢
    omega

end Glyph

namespace Walk

open Glyph (Settled)
open Lexeme (isDigit isQuote isWordPart)

variable {chars : Array Glyph} {start : Nat} {first glyph : Glyph} {tail rest : List Glyph}

theorem charAt_eq (remaining : chars.toList.drop start = first :: tail) :
    charAt chars start = .ok first := by
  have found : chars[start]? = some first := by
    rw [← Array.getElem?_toList, ← List.head?_drop, remaining]
    rfl
  rw [charAt, found]

theorem getElem?_succ (remaining : chars.toList.drop start = first :: tail) :
    chars[start + 1]? = tail.head? := by
  rw [← Array.getElem?_toList, ← List.head?_drop, ← List.tail_drop, remaining]
  rfl

theorem size_eq (remaining : chars.toList.drop start = first :: tail) :
    chars.size = start + (tail.length + 1) := by
  have lengths := congrArg List.length remaining
  simp only [List.length_drop, Array.length_toList, List.length_cons] at lengths
  omega

theorem drop_succ (remaining : chars.toList.drop start = first :: tail) :
    chars.toList.drop (start + 1) = tail := by
  rw [← List.tail_drop, remaining, List.tail_cons]

theorem drop_add {part : List Glyph} (remaining : chars.toList.drop start = part ++ rest) :
    chars.toList.drop (start + part.length) = rest := by
  rw [← List.drop_drop, remaining, List.drop_left]

theorem slice_part {part : List Glyph} (within : start ≤ chars.size)
    (remaining : chars.toList.drop start = part ++ rest) :
    slice chars start (start + part.length) = .ok part := by
  have lengths := congrArg List.length remaining
  simp only [List.length_drop, Array.length_toList, List.length_append] at lengths
  rw [slice, if_pos ⟨by omega, by omega⟩, remaining, Nat.add_sub_cancel_left, List.take_left]

theorem slice_rest (within : start ≤ chars.size) :
    slice chars start chars.size = .ok (chars.toList.drop start) := by
  have whole := slice_part within (List.append_nil (chars.toList.drop start)).symm
  rw [List.length_drop, Array.length_toList, Nat.add_sub_cancel' within] at whole
  exact whole

theorem placeBehind_eq (settled : Settled (first :: tail)) (member : glyph ∈ first :: tail) :
    placeBehind glyph = .ok glyph.span.stop := by
  rw [placeBehind, settled.placed glyph member]
  rfl

theorem between_eq {lexeme : Lexeme} (inOrder : Glyph.InOrder lexeme.glyphs) :
    between lexeme.first.span.start lexeme.last.span.stop = .ok lexeme.extent := by
  have span := Lexeme.span_eq inOrder
  rw [Lexeme.span] at span
  rw [between, span]
  rfl

/-- The span of a lexeme is found from its first index and the one behind its last. -/
theorem spanOf_eq {lexeme : Lexeme} (settled : Settled lexeme.glyphs)
    (remaining : chars.toList.drop start = lexeme.glyphs ++ rest) :
    spanOf chars start (start + lexeme.glyphs.length) = .ok lexeme.extent := by
  obtain ⟨initial, split⟩ := lexeme.glyphs_eq_concat
  have opening : charAt chars start = .ok lexeme.first := charAt_eq remaining
  have closing : charAt chars (start + lexeme.glyphs.length - 1) = .ok lexeme.last := by
    rw [split, List.append_assoc] at remaining
    rw [split, List.length_append, List.length_singleton, ← Nat.add_assoc, Nat.add_sub_cancel]
    exact charAt_eq (drop_add remaining)
  have positive : 0 < start + lexeme.glyphs.length := by
    rw [split, List.length_append, List.length_singleton]
    omega
  have place : placeBehind lexeme.last = .ok lexeme.last.span.stop :=
    placeBehind_eq settled lexeme.last_mem
  simp only [spanOf, opening, if_pos positive, closing, place, bind, Except.bind]
  exact between_eq settled.inOrder

/-- The step that reads `lexeme` and leaves the cursor at `next`. -/
def stepOf (halted : Bool) (lexeme : Lexeme) (next : Nat) : Step :=
  match lexeme.toToken? with
  | some token => .emit token next
  | none =>
      if lexeme.isOpen then
        if halted then .abandon else .fail lexeme.unclosed next
      else
        .skip next

theorem stepOf_emit {lexeme : Lexeme} {kind : TokenKind} (speaks : lexeme.tokenKind? = some kind)
    (halted : Bool) (next : Nat) : stepOf halted lexeme next =
      .emit { kind, value := lexeme.value, span := lexeme.extent } next := by
  simp [stepOf, Lexeme.toToken?, speaks]

section Modes

variable (remaining : chars.toList.drop start = first :: tail)

include remaining

theorem slice_tail : slice chars (start + 1) chars.size = .ok tail := by
  have size := size_eq remaining
  rw [slice_rest (by omega), drop_succ remaining]

variable (settled : Glyph.Settled (first :: tail))

include settled

theorem stringStep_eq (halted : Bool) : stringStep chars halted start =
    .ok (stepOf halted (Lexeme.readString first tail).1
      (start + (Lexeme.readString first tail).1.glyphs.length)) := by
  have size := size_eq remaining
  have split := List.takeWhile_append_dropWhile (p := fun glyph => !isQuote glyph) (l := tail)
  simp only [stringStep, charAt_eq remaining, slice_tail remaining, Lexeme.readString, bind,
    Except.bind]
  cases after : tail.dropWhile (fun glyph => !isQuote glyph) with
  | nil =>
      rw [after, List.append_nil] at split
      have silent : Lexeme.toToken? { shape := .openString, first, others := tail } = none :=
        Lexeme.toToken?_eq_none_iff.mpr (.inr rfl)
      rw [split, stepOf, silent, size]
      cases halted <;> rfl
  | cons close rest =>
      rw [after] at split
      have member : close ∈ first :: tail := by
        rw [← split]
        simp
      let lexeme : Lexeme :=
        { shape := .string, first
          others := tail.takeWhile (fun glyph => !isQuote glyph) ++ [close] }
      have within : lexeme.glyphs.Sublist (first :: tail) := by
        rw [← split, Lexeme.glyphs]
        simp [lexeme]
      have last : lexeme.last = close := by simp [lexeme, Lexeme.last]
      have span : between first.span.start close.span.stop = .ok lexeme.extent := by
        rw [← last]
        exact between_eq (settled.sublist within).inOrder
      have value : text (tail.takeWhile (fun glyph => !isQuote glyph)) = lexeme.value := by
        simp [lexeme, Lexeme.value, text]
      have length : start + (tail.takeWhile (fun glyph => !isQuote glyph)).length + 2 =
          start + lexeme.glyphs.length := by
        simp [lexeme, Lexeme.glyphs]
        omega
      simp only [placeBehind_eq settled member, span, value, length]
      rw [stepOf_emit rfl]

omit settled in
theorem numberEnd_cons (pointed : Bool) : numberEnd chars pointed start =
    if isDigit first then numberEnd chars pointed (start + 1)
    else if !pointed && first.char == '.' && tail.head?.any isDigit then
      numberEnd chars true (start + 1)
    else start := by
  have size := size_eq remaining
  have within : start < chars.size := by omega
  have here : chars[start] = first := by
    have found := charAt_eq remaining
    rw [charAt, Array.getElem?_eq_getElem within] at found
    exact Except.ok.inj found
  rw [numberEnd, dif_pos within, here, getElem?_succ remaining]

end Modes

/-- Where no digit stands and no fraction begins, a number ends. -/
theorem numberEnd_stop {glyphs : List Glyph} (remaining : chars.toList.drop start = glyphs)
    (stops : ∀ glyph, glyphs.head? = some glyph → isDigit glyph = false) {pointed : Bool}
    (whole : pointed = true ∨ ∀ point digit more, glyphs = point :: digit :: more →
      ¬ (point.char = '.' ∧ isDigit digit = true)) :
    numberEnd chars pointed start = start := by
  cases glyphs with
  | nil =>
      have past := List.drop_eq_nil_iff.mp remaining
      rw [Array.length_toList] at past
      rw [numberEnd, dif_neg (by omega)]
  | cons point others =>
      rw [numberEnd_cons remaining, if_neg (by simp [stops point rfl])]
      refine if_neg ?_
      rcases whole with rfl | noFraction
      · simp
      · cases others with
        | nil => simp
        | cons digit more =>
            have apart := noFraction point digit more rfl
            simp only [Bool.and_eq_true, beq_iff_eq, List.head?_cons, Option.any_some]
            rintro ⟨⟨-, point⟩, digit⟩
            exact apart ⟨point, digit⟩

/-- Digits are passed over, wherever the point stands. -/
theorem numberEnd_digits {digits : List Glyph} (digital : ∀ glyph ∈ digits, isDigit glyph = true)
    (remaining : chars.toList.drop start = digits ++ rest) (pointed : Bool) :
    numberEnd chars pointed start = numberEnd chars pointed (start + digits.length) := by
  induction digits generalizing start with
  | nil => rfl
  | cons digit digits ih =>
      rw [numberEnd_cons remaining, if_pos (digital digit (by simp)),
        ih (fun glyph member => digital glyph (by simp [member])) (drop_succ remaining),
        List.length_cons]
      congr 1
      omega

theorem numberEnd_run {glyphs : List Glyph} (remaining : chars.toList.drop start = glyphs)
    {pointed : Bool}
    (whole : pointed = true ∨ ∀ point digit more, glyphs.dropWhile isDigit = point :: digit :: more →
      ¬ (point.char = '.' ∧ isDigit digit = true)) :
    numberEnd chars pointed start = start + (glyphs.takeWhile isDigit).length := by
  have stops : ∀ glyph, (glyphs.dropWhile isDigit).head? = some glyph → isDigit glyph = false := by
    intro glyph found
    have boundary := List.head?_dropWhile_not isDigit glyphs
    rwa [found] at boundary
  rw [← List.takeWhile_append_dropWhile (p := isDigit) (l := glyphs)] at remaining
  rw [numberEnd_digits (fun _ member => List.mem_takeWhile_imp member) remaining]
  exact numberEnd_stop (drop_add remaining) stops whole

/-- The number that a digit begins ends where reading it does. -/
theorem numberEnd_eq (remaining : chars.toList.drop start = first :: tail)
    (digit : isDigit first = true) : numberEnd chars false start =
      start + (Lexeme.readNumber first tail).1.glyphs.length := by
  have taken : (first :: tail).takeWhile isDigit = first :: tail.takeWhile isDigit :=
    List.takeWhile_cons_of_pos digit
  have dropped : (first :: tail).dropWhile isDigit = tail.dropWhile isDigit :=
    List.dropWhile_cons_of_pos digit
  unfold Lexeme.readNumber
  cases after : tail.dropWhile isDigit with
  | nil =>
      rw [numberEnd_run remaining (.inr (by simp [dropped, after])), taken]
      rfl
  | cons point others =>
      cases others with
      | nil =>
          rw [numberEnd_run remaining (.inr (by simp [dropped, after])), taken]
          rfl
      | cons next more =>
          by_cases fraction : point.char = '.' ∧ isDigit next = true
          · have stops := List.head?_dropWhile_not isDigit tail
            rw [after] at stops
            have split := List.takeWhile_append_dropWhile (p := isDigit) (l := first :: tail)
            rw [taken, dropped, after] at split
            rw [← split] at remaining
            have pointAt := drop_add remaining
            have digital : ∀ glyph ∈ first :: tail.takeWhile isDigit, isDigit glyph = true := by
              rw [← taken]
              exact fun _ member => List.mem_takeWhile_imp member
            have begins : numberEnd chars false (start + (first :: tail.takeWhile isDigit).length) =
                numberEnd chars true (start + (first :: tail.takeWhile isDigit).length + 1) := by
              rw [numberEnd_cons pointAt, if_neg (by simpa using stops)]
              simp [fraction.1, fraction.2]
            rw [numberEnd_digits digital remaining, begins, numberEnd_run (drop_succ pointAt) (.inl rfl),
              List.takeWhile_cons_of_pos fraction.2]
            simp only [if_pos fraction]
            simp [Lexeme.glyphs]
            omega
          · rw [numberEnd_run remaining (.inr ?_), taken]
            · simp only [if_neg fraction]
              rfl
            · rw [dropped, after]
              rintro _ _ _ ⟨⟩
              exact fraction

section Modes

variable {lexeme : Lexeme} (settled : Glyph.Settled lexeme.glyphs)
  (remaining : chars.toList.drop start = lexeme.glyphs ++ rest)

include settled remaining

theorem numberStep_eq (digit : isDigit first = true) (reads : (Lexeme.readNumber first tail).1 = lexeme)
    (splits : lexeme.glyphs ++ rest = first :: tail) (halted : Bool) :
    numberStep chars start = .ok (stepOf halted lexeme (start + lexeme.glyphs.length)) := by
  have size := size_eq (remaining.trans splits)
  have speaks : lexeme.shape = .number := by
    rw [← reads, Lexeme.readNumber]
    split
    · split <;> rfl
    · rfl
  have stop := numberEnd_eq (remaining.trans splits) digit
  rw [reads] at stop
  have value : lexeme.value = text lexeme.glyphs := by
    rw [Lexeme.value, speaks]
    rfl
  simp only [numberStep, stop, slice_part (by omega) remaining, spanOf_eq settled remaining, bind,
    Except.bind]
  rw [stepOf_emit (by rw [Lexeme.tokenKind?, speaks]), value]

theorem wordStep_eq (letter : isWordPart first = true) (reads : (Lexeme.readWord first tail).1 = lexeme)
    (splits : lexeme.glyphs ++ rest = first :: tail) (halted : Bool) :
    wordStep chars start = .ok (stepOf halted lexeme (start + lexeme.glyphs.length)) := by
  have size := size_eq (remaining.trans splits)
  have taken : (chars.toList.drop start).takeWhile isWordPart = lexeme.glyphs := by
    rw [remaining.trans splits, List.takeWhile_cons_of_pos letter, ← reads]
    rfl
  have speaks : lexeme.shape = .word := by rw [← reads]; rfl
  have value : lexeme.value = text lexeme.glyphs := by
    rw [Lexeme.value, speaks]
    rfl
  simp only [wordStep, slice_rest (show start ≤ chars.size by omega), taken,
    slice_part (by omega) remaining, spanOf_eq settled remaining, ← value, bind, Except.bind]
  rw [stepOf_emit (by rw [Lexeme.tokenKind?, speaks, ← apply_ite some])]

end Modes

section

variable (settled : Glyph.Settled (first :: tail))
  (remaining : chars.toList.drop start = first :: tail)

include settled

theorem singleStep_eq (halted : Bool) : singleStep first start =
    .ok (stepOf halted { shape := .symbol, first, others := [] } (start + 1)) := by
  have placed := settled.placed first (List.mem_cons_self ..)
  simp only [singleStep, Span.single, placed, bind, Except.bind, Except.mapError]
  rw [stepOf_emit rfl]
  rfl

include remaining

theorem symbolStep_eq (visible : first.kind ≠ .whitespace) (halted : Bool) :
    symbolStep chars start = .ok (stepOf halted (Lexeme.readSymbol first tail).1
      (start + (Lexeme.readSymbol first tail).1.glyphs.length)) := by
  simp only [symbolStep, charAt_eq remaining, if_neg visible, getElem?_succ remaining, bind,
    Except.bind]
  cases tail with
  | nil => exact singleStep_eq settled halted
  | cons second rest =>
      unfold Lexeme.readSymbol
      by_cases merges : CharClass.ofPair first.char second.char = .symbol
      · let lexeme : Lexeme := { shape := .symbol, first, others := [second] }
        have span : spanOf chars start (start + 2) = .ok lexeme.extent :=
          spanOf_eq (settled.sublist (List.sublist_append_left lexeme.glyphs rest)) remaining
        simp only [List.head?_cons, if_pos merges, span]
        rw [stepOf_emit rfl]
        rfl
      · simp only [List.head?_cons, if_neg merges]
        exact singleStep_eq settled halted

/-- A step reads the lexeme at the cursor and goes on behind it. -/
theorem step_eq (halted : Bool) : step chars halted start =
    .ok (stepOf halted (Lexeme.read first tail).1
      (start + (Lexeme.read first tail).1.glyphs.length)) := by
  have splits := Lexeme.read_glyphs first tail
  simp only [step, charAt_eq remaining, bind, Except.bind]
  unfold Lexeme.read at splits ⊢
  cases opens : isQuote first with
  | true => exact stringStep_eq remaining settled halted
  | false =>
      simp only [opens, Bool.false_eq_true, if_false] at splits ⊢
      cases kind : first.kind with
      | number =>
          simp only [kind] at splits ⊢
          have own := settled.sublist (splits ▸ List.sublist_append_left _ _)
          exact numberStep_eq own (remaining.trans splits.symm) (by simp [isDigit, kind]) rfl
            splits halted
      | identifier =>
          simp only [kind] at splits ⊢
          have own := settled.sublist (splits ▸ List.sublist_append_left _ _)
          exact wordStep_eq own (remaining.trans splits.symm) (by simp [isWordPart, kind]) rfl
            splits halted
      | whitespace =>
          simp only [symbolStep, charAt_eq remaining, kind, if_true, bind, Except.bind]
          rfl
      | symbol => exact symbolStep_eq settled remaining (by simp [kind]) halted
      | unrecognized => exact symbolStep_eq settled remaining (by simp [kind]) halted

end

end Walk

end Poco
