import Mathlib.Data.List.TakeWhile
import Poco.Proofs.Places
import Poco.Scan

namespace Poco

def Alphabet.recognizes (c : Char) : Bool :=
  CharClass.of c != .unrecognized

open Alphabet (recognizes)

namespace Glyph

/-- The character `c` as it stands behind `before`. -/
def behind (before : List Char) (c : Char) : Glyph :=
  { kind := .of c, char := c, span := { start := .after before, stop := .after (before ++ [c]) } }

/-- The characters of a text that stands behind `before`. -/
def allBehind (before : List Char) : List Char → List Glyph
  | [] => []
  | c :: rest => behind before c :: allBehind (before ++ [c]) rest

def isRecognized (glyph : Glyph) : Bool :=
  glyph.kind != .unrecognized

/-- What a scan reports about a character that it sets aside. -/
def refusal (glyph : Glyph) : LexicalError :=
  .unrecognizedSyntax glyph.char glyph.span.start.line glyph.span.start.column

@[simp] theorem isRecognized_behind (before : List Char) (c : Char) :
    (behind before c).isRecognized = recognizes c := rfl

@[simp] theorem char_behind (before : List Char) (c : Char) : (behind before c).char = c := rfl

@[simp] theorem refusal_behind (before : List Char) (c : Char) :
    (behind before c).refusal =
      .unrecognizedSyntax c (Position.after before).line (Position.after before).column := rfl

@[simp] theorem allBehind_nil (before : List Char) : allBehind before [] = [] := rfl

@[simp] theorem allBehind_cons (before : List Char) (c : Char) (rest : List Char) :
    allBehind before (c :: rest) = behind before c :: allBehind (before ++ [c]) rest := rfl

theorem allBehind_append (before left right : List Char) :
    allBehind before (left ++ right) =
      allBehind before left ++ allBehind (before ++ left) right := by
  induction left generalizing before with
  | nil => simp
  | cons c left ih =>
      rw [List.cons_append, allBehind_cons, ih, allBehind_cons, List.cons_append]
      simp

theorem map_char_filter_allBehind (before text : List Char) :
    ((allBehind before text).filter (·.isRecognized)).map (·.char) = text.filter recognizes := by
  induction text generalizing before with
  | nil => rfl
  | cons c rest ih =>
      cases known : recognizes c
      · simpa [known] using ih (before ++ [c])
      · simpa [known] using ih (before ++ [c])

theorem mem_allBehind {glyph : Glyph} {before text : List Char} :
    glyph ∈ allBehind before text ↔
      ∃ passed c rest, text = passed ++ c :: rest ∧ glyph = behind (before ++ passed) c := by
  induction text generalizing before with
  | nil => simp
  | cons first text ih =>
      rw [allBehind_cons, List.mem_cons, ih]
      constructor
      · rintro (rfl | ⟨passed, c, rest, rfl, rfl⟩)
        · exact ⟨[], first, text, rfl, by simp⟩
        · exact ⟨first :: passed, c, rest, rfl, by simp⟩
      · rintro ⟨passed, c, rest, split, rfl⟩
        cases passed with
        | nil =>
            simp only [List.nil_append, List.cons.injEq] at split
            obtain ⟨rfl, rfl⟩ := split
            exact .inl (by simp)
        | cons other passed =>
            simp only [List.cons_append, List.cons.injEq] at split
            obtain ⟨rfl, rfl⟩ := split
            exact .inr ⟨passed, c, rest, rfl, by simp⟩

/-- A cut between recognized characters is a cut of the text. -/
theorem filter_allBehind_append {before text : List Char} {front back : List Glyph}
    (parts : (allBehind before text).filter (·.isRecognized) = front ++ back) :
    ∃ left right, text = left ++ right ∧
      front = (allBehind before left).filter (·.isRecognized) ∧
      back = (allBehind (before ++ left) right).filter (·.isRecognized) := by
  induction text generalizing before front with
  | nil =>
      obtain ⟨rfl, rfl⟩ := List.append_eq_nil_iff.mp parts.symm
      exact ⟨[], [], rfl, rfl, rfl⟩
  | cons c rest ih =>
      cases front with
      | nil => exact ⟨[], c :: rest, rfl, rfl, by simpa using parts.symm⟩
      | cons first front =>
          cases known : recognizes c with
          | true =>
              simp only [allBehind_cons, List.filter_cons, isRecognized_behind, known, if_true,
                List.cons_append, List.cons.injEq] at parts
              obtain ⟨rfl, later⟩ := parts
              obtain ⟨left, right, rfl, rfl, rfl⟩ := ih later
              exact ⟨c :: left, right, rfl, by simp [known], by simp⟩
          | false =>
              simp only [allBehind_cons, List.filter_cons, isRecognized_behind, known,
                Bool.false_eq_true, if_false] at parts
              obtain ⟨left, right, rfl, front_eq, rfl⟩ := ih parts
              exact ⟨c :: left, right, rfl, by simp [known, front_eq], by simp⟩

/-- The first recognized character of a text has only dropped ones before it. -/
theorem filter_allBehind_cons {before text : List Char} {first : Glyph} {others : List Glyph}
    (parts : (allBehind before text).filter (·.isRecognized) = first :: others) :
    ∃ dropped c rest, text = dropped ++ c :: rest ∧ recognizes c = true ∧
      (∀ d ∈ dropped, recognizes d = false) ∧ first = behind (before ++ dropped) c ∧
      others = (allBehind (before ++ dropped ++ [c]) rest).filter (·.isRecognized) := by
  induction text generalizing before with
  | nil => simp at parts
  | cons c rest ih =>
      cases known : recognizes c with
      | true =>
          simp only [allBehind_cons, List.filter_cons, isRecognized_behind, known, if_true,
            List.cons.injEq] at parts
          exact ⟨[], c, rest, rfl, known, by simp, by simp [parts.1], by simp [parts.2]⟩
      | false =>
          simp only [allBehind_cons, List.filter_cons, isRecognized_behind, known,
            Bool.false_eq_true, if_false] at parts
          obtain ⟨dropped, d, more, rfl, knownLater, foreign, rfl, rfl⟩ := ih parts
          refine ⟨c :: dropped, d, more, rfl, knownLater, ?_, by simp, by simp⟩
          simpa [known] using foreign

end Glyph

namespace Scan

open Glyph (behind allBehind)

/-- The part of a text that a scan goes through. -/
def reached (policy : RecoveryPolicy) (text : List Char) : List Char :=
  match policy with
  | .resynchronize => text
  | .halt => text.takeWhile recognizes

theorem reached_prefix (policy : RecoveryPolicy) (text : List Char) : reached policy text <+: text := by
  cases policy with
  | resynchronize => exact List.prefix_refl _
  | halt => exact List.takeWhile_prefix _

/-- The characters that a scan of `text` sets aside, when `text` stands behind `before`. -/
def refused (policy : RecoveryPolicy) (before text : List Char) : List Glyph :=
  let others := (allBehind before text).filter (fun glyph => !glyph.isRecognized)
  match policy with
  | .resynchronize => others
  | .halt => others.take 1

theorem refused_subset (policy : RecoveryPolicy) {before text : List Char} :
    refused policy before text ⊆ allBehind before text := by
  intro glyph member
  cases policy with
  | resynchronize => exact (List.mem_filter.mp member).1
  | halt => exact (List.mem_filter.mp (List.mem_of_mem_take member)).1

def haltPlace (policy : RecoveryPolicy) (before text : List Char) : Option Position :=
  match policy with
  | .resynchronize => none
  | .halt => (refused .halt before text).head?.map (·.span.start)

def keptGlyphs (policy : RecoveryPolicy) (before text : List Char) : List Glyph :=
  (allBehind before (reached policy text)).filter (·.isRecognized)

theorem keptGlyphs_append (before left right : List Char) :
    keptGlyphs .resynchronize before (left ++ right) =
      keptGlyphs .resynchronize before left ++
        keptGlyphs .resynchronize (before ++ left) right := by
  rw [keptGlyphs, reached, Glyph.allBehind_append, List.filter_append]
  rfl

theorem refused_append (before left right : List Char) :
    refused .resynchronize before (left ++ right) =
      refused .resynchronize before left ++ refused .resynchronize (before ++ left) right := by
  simp only [refused, Glyph.allBehind_append, List.filter_append]

@[simp] theorem kept_keep (scan : Scan) (before : List Char) (c : Char) :
    (scan.keep (.of c) c { start := .after before, stop := .after (before ++ [c]) }).kept =
      scan.kept.push (behind before c) := rfl

theorem extend_known {policy : RecoveryPolicy} {scan : Scan} {position stop : Position} {c : Char}
    (rest : List Char) (known : recognizes c = true) (advanced : position.advance c = .ok stop) :
    extend policy scan position (c :: rest) =
      extend policy (scan.keep (.of c) c { start := position, stop }) stop rest := by
  have recognized : CharClass.of c ≠ .unrecognized := by simpa [recognizes] using known
  rw [extend.eq_def]
  simp only [recognized, if_false, advanced]

theorem extend_foreign {scan : Scan} {position stop : Position} {c : Char} (rest : List Char)
    (foreign : recognizes c = false) (advanced : position.advance c = .ok stop) :
    extend .resynchronize scan position (c :: rest) =
      extend .resynchronize (scan.reject c position) stop rest := by
  have refusedHere : CharClass.of c = .unrecognized := by simpa [recognizes] using foreign
  rw [extend]
  simp only [refusedHere, if_true, advanced]

theorem extend_halts {scan : Scan} {position : Position} {c : Char} (rest : List Char)
    (foreign : recognizes c = false) :
    extend .halt scan position (c :: rest) =
      .ok { scan.reject c position with haltedAt := some position } := by
  have refusedHere : CharClass.of c = .unrecognized := by simpa [recognizes] using foreign
  rw [extend]
  simp only [refusedHere, if_true]

theorem extend_exists (policy : RecoveryPolicy) (scan : Scan) (before text : List Char)
    (short : (before ++ text).length ≤ UInt32.size - 2) :
    ∃ result, extend policy scan (.after before) text = .ok result ∧
      result.kept.toList = scan.kept.toList ++ keptGlyphs policy before text ∧
      result.rejected.toList =
        scan.rejected.toList ++ (refused policy before text).map (·.refusal) ∧
      result.haltedAt = (haltPlace policy before text).or scan.haltedAt := by
  induction text generalizing scan before with
  | nil =>
      refine ⟨scan, by rw [extend], ?_⟩
      cases policy <;> simp [keptGlyphs, reached, refused, haltPlace]
  | cons c rest ih =>
      have regrouped : before ++ c :: rest = before ++ [c] ++ rest := by simp
      rw [regrouped] at short
      have advanced : (Position.after before).advance c = .ok (.after (before ++ [c])) :=
        Position.advance_after (Position.short_front short)
      cases known : recognizes c with
      | true =>
          obtain ⟨result, run, kept, rejected, halted⟩ := ih
            (scan.keep (.of c) c { start := .after before, stop := .after (before ++ [c]) })
            (before ++ [c]) short
          refine ⟨result, (extend_known rest known advanced).trans run, ?_, ?_, ?_⟩
          · rw [kept]
            cases policy <;> simp [keptGlyphs, reached, known]
          · rw [rejected]
            cases policy <;> simp [refused, known, keep]
          · rw [halted]
            cases policy <;> simp [haltPlace, refused, known, keep]
      | false =>
          cases policy with
          | halt =>
              refine ⟨_, extend_halts rest known, ?_⟩
              simp [keptGlyphs, reached, refused, haltPlace, known, reject]
              rfl
          | resynchronize =>
              obtain ⟨result, run, kept, rejected, halted⟩ :=
                ih (scan.reject c (.after before)) (before ++ [c]) short
              refine ⟨result, (extend_foreign rest known advanced).trans run, ?_, ?_, halted⟩
              · rw [kept]
                simp [keptGlyphs, reached, known, reject]
              · rw [rejected]
                simp [refused, known, reject]

def keptChars (policy : RecoveryPolicy) (text : List Char) : List Char :=
  match policy with
  | .resynchronize => text.filter recognizes
  | .halt => text.takeWhile recognizes

theorem filter_reached (policy : RecoveryPolicy) (text : List Char) :
    (reached policy text).filter recognizes = keptChars policy text := by
  cases policy with
  | resynchronize => rfl
  | halt =>
      rw [reached, keptChars, List.filter_eq_self]
      intro c member
      exact List.mem_takeWhile_imp member

theorem map_char_keptGlyphs (policy : RecoveryPolicy) (before text : List Char) :
    (keptGlyphs policy before text).map (·.char) = keptChars policy text := by
  rw [keptGlyphs, Glyph.map_char_filter_allBehind, filter_reached]

/-- A kept character stands somewhere in the source. -/
theorem behind_of_mem_keptGlyphs {policy : RecoveryPolicy} {source : List Char} {glyph : Glyph}
    (member : glyph ∈ keptGlyphs policy [] source) :
    ∃ before c rest, source = before ++ c :: rest ∧ glyph = behind before c ∧
      recognizes c = true := by
  obtain ⟨among, known⟩ := List.mem_filter.mp member
  obtain ⟨before, c, rest, split, rfl⟩ := Glyph.mem_allBehind.mp among
  obtain ⟨unreached, whole⟩ := reached_prefix policy source
  exact ⟨before, c, rest ++ unreached, by rw [← whole, split]; simp, rfl, known⟩

/-- The scan of a whole source, read off the source. -/
def whole (policy : RecoveryPolicy) (source : List Char) : Scan :=
  { kept := (keptGlyphs policy [] source).toArray
    rejected := ((refused policy [] source).map (·.refusal)).toArray
    haltedAt := haltPlace policy [] source }

theorem size_kept_le (policy : RecoveryPolicy) (source : List Char) :
    (whole policy source).kept.size ≤ source.length := by
  have lengths := congrArg List.length (map_char_keptGlyphs policy [] source)
  rw [List.length_map] at lengths
  rw [whole, List.size_toArray, lengths]
  cases policy with
  | resynchronize => exact List.length_filter_le ..
  | halt => exact (List.takeWhile_prefix _).length_le

theorem ofSource_eq (policy : RecoveryPolicy) {source : List Char}
    (short : source.length ≤ UInt32.size - 2) : ofSource policy source = .ok (whole policy source) := by
  obtain ⟨⟨kept, rejected, haltedAt⟩, run, keptEq, rejectedEq, haltedEq⟩ :=
    extend_exists policy {} [] source short
  simp only [List.nil_append, Option.or_none] at keptEq rejectedEq haltedEq
  rw [ofSource, ← Position.after_nil, run, whole, ← keptEq, ← rejectedEq, haltedEq]

end Scan

end Poco
