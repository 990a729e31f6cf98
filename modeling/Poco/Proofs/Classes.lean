import Poco.Alphabet

namespace Poco

namespace Alphabet

theorem isDigit_eq (c : Char) : Text.isDigit c = c.isDigit := rfl

theorem isAlpha_iff (c : Char) : c.isAlpha = true ↔
    (65 ≤ c.toNat ∧ c.toNat ≤ 90) ∨ (97 ≤ c.toNat ∧ c.toNat ≤ 122) := by
  change (decide (c.val ≥ 'A'.val ∧ c.val ≤ 'Z'.val) ||
    (decide (c.val ≥ 'a'.val) && decide (c.val ≤ 'z'.val))) = true ↔ _
  simp only [Bool.or_eq_true, Bool.and_eq_true, decide_eq_true_eq, ge_iff_le,
    UInt32.le_iff_toNat_le]
  exact Iff.rfl

theorem isDigit_iff (c : Char) : c.isDigit = true ↔ 48 ≤ c.toNat ∧ c.toNat ≤ 57 := by
  simp only [Char.isDigit, Bool.and_eq_true, decide_eq_true_eq, ge_iff_le,
    UInt32.le_iff_toNat_le]
  exact Iff.rfl

theorem isLetter_eq (c : Char) : isLetter c = c.isAlpha := by
  rw [Bool.eq_iff_iff, isAlpha_iff]
  simp only [isLetter, Bool.or_eq_true, Bool.and_eq_true, decide_eq_true_eq, Char.le_def,
    UInt32.le_iff_toNat_le]
  exact or_comm

theorem isAlphanum_of_isAlpha {c : Char} (letter : c.isAlpha = true) : c.isAlphanum = true := by
  simp [Char.isAlphanum, letter]

theorem isAlphanum_of_isDigit {c : Char} (digit : c.isDigit = true) : c.isAlphanum = true := by
  simp [Char.isAlphanum, digit]

/-- Letters and digits lie between the low blanks and the high ones. -/
theorem toNat_of_isAlphanum {c : Char} (wordPart : c.isAlphanum = true) :
    48 ≤ c.toNat ∧ c.toNat ≤ 122 := by
  rw [Char.isAlphanum, Bool.or_eq_true, isAlpha_iff, isDigit_iff] at wordPart
  omega

theorem toNat_of_isBlank {c : Char} (blank : isBlank c = true) :
    c.toNat ≤ 32 ∨ 160 ≤ c.toNat := by
  unfold isBlank at blank
  split at blank
  case h_15 =>
      simp only [Bool.and_eq_true, decide_eq_true_eq] at blank
      have lower : 8192 ≤ c.toNat := blank.1
      omega
  all_goals decide

theorem not_isAlphanum_of_isBlank {c : Char} (blank : isBlank c = true) :
    c.isAlphanum = false := by
  rw [Bool.eq_false_iff]
  intro wordPart
  have within := toNat_of_isAlphanum wordPart
  have outside := toNat_of_isBlank blank
  omega

theorem not_isAlpha_of_isDigit {c : Char} (digit : c.isDigit = true) : c.isAlpha = false := by
  rw [Bool.eq_false_iff]
  intro letter
  rw [isAlpha_iff] at letter
  rw [isDigit_iff] at digit
  omega

/-- No symbol has a letter, a digit or a blank in it. -/
theorem symbol_chars {text : List Char} (symbol : text ∈ symbols) {c : Char} (member : c ∈ text) :
    c.isAlphanum = false ∧ isBlank c = false := by
  have all : symbols.all (·.all fun c => !c.isAlphanum && !isBlank c) = true := by decide
  simp only [List.all_eq_true, Bool.and_eq_true, Bool.not_eq_true'] at all
  exact all text symbol c member

theorem symbol_of_compound {text : List Char} (compound : text ∈ compoundOperators) :
    text ∈ symbols :=
  List.mem_append_left _ compound

theorem compound_pair {text : List Char} (compound : text ∈ compoundOperators) :
    ∃ first second, text = [first, second] := by
  simp only [compoundOperators, List.mem_cons, List.not_mem_nil, or_false] at compound
  rcases compound with rfl | rfl | rfl | rfl | rfl <;> exact ⟨_, _, rfl⟩

/-- A symbol is one character, or one of the compound operators. -/
theorem symbol_shape {text : List Char} (symbol : text ∈ symbols) :
    (∃ c, text = [c]) ∨ text ∈ compoundOperators := by
  have all : ∀ text ∈ symbols, text.length = 1 ∨ text ∈ compoundOperators := by decide
  exact (all text symbol).imp_left List.length_eq_one_iff.mp

end Alphabet

namespace CharClass

open Alphabet

theorem of_eq (c : Char) :
    CharClass.of c =
      if [c] ∈ symbols then .symbol
      else if c.isDigit then .number
      else if c.isAlpha then .identifier
      else if isBlank c then .whitespace
      else .unrecognized := by
  simp [CharClass.of, ofText, isSymbol, isNumber, isIdentifier, isWhitespace, isDigit_eq,
    isLetter_eq]

theorem of_eq_symbol_iff (c : Char) : CharClass.of c = .symbol ↔ [c] ∈ symbols := by
  rw [of_eq]
  grind

theorem of_eq_number_iff (c : Char) : CharClass.of c = .number ↔ c.isDigit = true := by
  have apart : c.isDigit = true → [c] ∉ symbols := by
    intro digit symbol
    have wordPart := (symbol_chars symbol (List.mem_singleton_self c)).1
    simp [Char.isAlphanum, digit] at wordPart
  rw [of_eq]
  grind

theorem of_eq_identifier_iff (c : Char) : CharClass.of c = .identifier ↔ c.isAlpha = true := by
  have apart : c.isAlpha = true → [c] ∉ symbols ∧ c.isDigit = false := by
    intro letter
    constructor
    · intro symbol
      have wordPart := (symbol_chars symbol (List.mem_singleton_self c)).1
      simp [Char.isAlphanum, letter] at wordPart
    · rw [Bool.eq_false_iff]
      intro digit
      rw [not_isAlpha_of_isDigit digit] at letter
      contradiction
  rw [of_eq]
  grind

theorem of_eq_whitespace_iff (c : Char) : CharClass.of c = .whitespace ↔ isBlank c = true := by
  have apart : isBlank c = true → [c] ∉ symbols ∧ c.isDigit = false ∧ c.isAlpha = false := by
    intro blank
    have wordPart := not_isAlphanum_of_isBlank blank
    simp only [Char.isAlphanum, Bool.or_eq_false_iff] at wordPart
    refine ⟨?_, wordPart.2, wordPart.1⟩
    intro symbol
    rw [(symbol_chars symbol (List.mem_singleton_self c)).2] at blank
    contradiction
  rw [of_eq]
  grind

/-- A pair is read together when it is a compound operator. -/
theorem ofPair_eq_symbol_iff (first second : Char) :
    CharClass.ofPair first second = .symbol ↔ [first, second] ∈ compoundOperators := by
  have pairs : [first, second] ∈ symbols ↔ [first, second] ∈ compoundOperators := by
    simp [symbols]
  rw [← pairs]
  unfold CharClass.ofPair ofText isSymbol
  grind

end CharClass

end Poco
