import Mathlib.Data.List.TakeWhile
import Poco.Json.Mark

namespace Poco

namespace Text

theorem digitChar_of_pos {digit : Nat} (small : digit < 10) (positive : 0 < digit) :
    '1' ≤ digitChar digit ∧ digitChar digit ≤ '9' := by
  revert digit
  decide

/-- The digits of a number: a lone zero, or else no zero in front. -/
theorem digits_shape (n : Nat) :
    n = 0 ∧ digits n = ['0'] ∨
      ∃ c rest, digits n = c :: rest ∧ ('1' ≤ c ∧ c ≤ '9') ∧ ∀ d ∈ rest, isDigit d = true := by
  induction n using Nat.strongRecOn with
  | ind n ih =>
      rw [digits]
      by_cases small : n < 10
      · rw [if_pos small]
        rcases Nat.eq_zero_or_pos n with zero | positive
        · exact .inl ⟨zero, by rw [zero]; rfl⟩
        · exact .inr ⟨_, [], rfl, digitChar_of_pos small positive, by simp⟩
      · rw [if_neg small]
        have last : isDigit (digitChar (n % 10)) = true :=
          isDigit_digitChar (Nat.mod_lt n (by decide))
        rcases ih (n / 10) (by omega) with ⟨zero, -⟩ | ⟨c, rest, shape, first, others⟩
        · omega
        · refine .inr ⟨c, rest ++ [digitChar (n % 10)], by rw [shape]; rfl, first, ?_⟩
          simp only [List.mem_append, List.mem_singleton]
          rintro d (member | rfl)
          · exact others d member
          · exact last

theorem isDigit_digits (n : Nat) : ∀ d ∈ digits n, isDigit d = true := by
  rcases digits_shape n with ⟨-, shape⟩ | ⟨c, rest, shape, first, others⟩
  · rw [shape]
    simp [isDigit]
  · rw [shape, List.forall_mem_cons]
    have above : '0' ≤ c := Char.le_trans (by decide) first.1
    exact ⟨by simp [isDigit, above, first.2], others⟩

end Text

namespace Json

theorem codeUnit?_control {n : Nat} (control : n < 0x20) :
    codeUnit? '0' '0' (Text.hexDigit (n / 16)) (Text.hexDigit (n % 16)) = some n := by
  revert n
  decide

theorem readString_plain {c : Char} (quote : c ≠ '\x22') (backslash : c ≠ '\\')
    (shows : 0x20 ≤ c.toNat) (done : Array Char) (rest : List Char) :
    readString done (c :: rest) = readString (done.push c) rest := by
  rw [readString.eq_def]
  split
  case h_5 same =>
    obtain ⟨rfl, rfl⟩ := List.cons.inj same
    exact if_neg (not_or.mpr ⟨backslash, Nat.not_lt.mpr shows⟩)
  all_goals simp_all

theorem readString_spellChar (done : Array Char) (c : Char) (rest : List Char) :
    readString done (spellChar c ++ rest) = readString (done.push c) rest := by
  unfold spellChar
  split
  -- The short escapes are each read by a pattern of their own.
  case h_8 quote backslash backspace feed newline return_ tab =>
    split
    case isTrue control =>
      have small : c.toNat < 0xd800 := Nat.lt_trans control (by decide)
      simp [readString, codeUnit?_control control, small, Char.ofNat_toNat]
    case isFalse shows => exact readString_plain quote backslash (Nat.le_of_not_lt shows) done rest
  all_goals simp [readString, shortEscape?]

theorem readString_spelled (done : Array Char) (text rest : List Char) :
    readString done (text.flatMap spellChar ++ '\x22' :: rest) =
      some (String.ofList (done.toList ++ text), rest) := by
  induction text generalizing done with
  | nil => simp [readString]
  | cons c text ih =>
      rw [List.flatMap_cons, List.append_assoc, readString_spellChar, ih]
      simp

/-- A word does not go on in `text`. -/
def EndsBefore (text : List Char) : Prop :=
  ∀ c ∈ text.head?, isBare c = false

theorem takeWhile_word {word text : List Char} (bare : ∀ c ∈ word, isBare c = true)
    (ends : EndsBefore text) : (word ++ text).takeWhile isBare = word := by
  rw [List.takeWhile_append_of_pos bare]
  cases text with
  | nil => simp
  | cons c rest => rw [List.takeWhile_cons_of_neg (by simp [ends c rfl]), List.append_nil]

theorem dropWhile_word {word text : List Char} (bare : ∀ c ∈ word, isBare c = true)
    (ends : EndsBefore text) : (word ++ text).dropWhile isBare = text := by
  rw [List.dropWhile_append_of_pos bare]
  cases text with
  | nil => rfl
  | cons c rest => exact List.dropWhile_cons_of_neg (by simp [ends c rfl])

/-- A scalar that is spelled as one word and understood from it. -/
structure Scalar.IsWord (scalar : Scalar) : Prop where
  nonempty : scalar.spell ≠ []
  bare : ∀ c ∈ scalar.spell, isBare c = true
  understood : bareScalar? scalar.spell = some scalar

theorem readMark_bare {c : Char} (bare : isBare c = true) (rest : List Char) :
    readMark c rest =
      (bareScalar? (c :: rest.takeWhile isBare)).map fun scalar =>
        (.scalar scalar, rest.dropWhile isBare) := by
  unfold readMark
  split
  case h_8 => rfl
  all_goals exact absurd bare (by decide)

theorem isSpace_of_isBare {c : Char} (bare : isBare c = true) : isSpace c = false := by
  cases space : isSpace c with
  | false => rfl
  | true =>
      simp only [isSpace, Bool.or_eq_true, beq_iff_eq] at space
      rcases space with ((rfl | rfl) | rfl) | rfl <;> exact absurd bare (by decide)

theorem isBare_of_isDigit {c : Char} (digit : Text.isDigit c = true) : isBare c = true := by
  have alphanumeric : c.isAlphanum = true := by
    rw [Text.isDigit, Bool.and_eq_true, decide_eq_true_eq, decide_eq_true_eq] at digit
    rw [Char.isAlphanum, Char.isDigit, Bool.or_eq_true, Bool.and_eq_true, decide_eq_true_eq,
      decide_eq_true_eq]
    exact .inr digit
  simp [isBare, alphanumeric]

theorem isWholeNumeral_digits (n : Nat) : isWholeNumeral (Text.digits n) = true := by
  rcases Text.digits_shape n with ⟨-, shape⟩ | ⟨c, rest, shape, first, others⟩
  · rw [shape]
    rfl
  · rw [shape, isWholeNumeral.eq_def]
    split
    case h_1 same => contradiction
    case h_2 => rfl
    case h_3 same =>
      obtain ⟨rfl, rfl⟩ := List.cons.inj same
      simpa [first.1, first.2] using others

theorem magnitude?_digits (negative : Bool) (n : Nat) (signed : negative = true → n ≠ 0) :
    magnitude? negative (Text.digits n) =
      some (.integer (if negative then -(n : Int) else n)) := by
  have whole : (Text.digits n).takeWhile Text.isDigit = Text.digits n := by
    rw [List.takeWhile_eq_self_iff]
    exact Text.isDigit_digits n
  have tail : (Text.digits n).dropWhile Text.isDigit = [] := by
    rw [List.dropWhile_eq_nil_iff]
    exact Text.isDigit_digits n
  have counted : (negative && Text.digits n == ['0']) = false := by
    cases negative with
    | false => rfl
    | true =>
        refine beq_false_of_ne fun zero => signed rfl ?_
        rw [← Text.digitsValue_digits n, zero]
        rfl
  simp [magnitude?, whole, tail, isWholeNumeral_digits, counted, Text.digitsValue_digits,
    isNumeralTail]

theorem bareScalar?_digits {text : List Char} (digits : ∀ c ∈ text, Text.isDigit c = true) :
    bareScalar? text = magnitude? false text := by
  unfold bareScalar?
  split
  case h_5 => rfl
  all_goals simp [Text.isDigit] at digits

theorem isWord_integer (value : Int) : (Scalar.integer value).IsWord := by
  have nonempty (n : Nat) : Text.digits n ≠ [] := by
    rcases Text.digits_shape n with ⟨-, shape⟩ | ⟨c, rest, shape, -⟩ <;> simp [shape]
  have bare (n : Nat) : ∀ c ∈ Text.digits n, isBare c = true := fun c member =>
    isBare_of_isDigit (Text.isDigit_digits n c member)
  cases value with
  | ofNat n =>
      refine ⟨nonempty n, bare n, ?_⟩
      exact (bareScalar?_digits (Text.isDigit_digits n)).trans (magnitude?_digits false n (by simp))
  | negSucc n =>
      refine ⟨List.cons_ne_nil _ _, ?_, ?_⟩
      · exact List.forall_mem_cons.mpr ⟨by decide, bare (n + 1)⟩
      · exact magnitude?_digits true (n + 1) fun _ => Nat.succ_ne_zero n

/-- A scalar whose spelling can be read back: a real numeral has to be well formed for that. -/
def Scalar.Readable : Scalar → Prop
  | .real numeral => (Scalar.real numeral).IsWord
  | .null | .bool _ | .integer _ | .string _ => True

namespace Mark

def IsWord : Mark → Prop
  | .scalar (.string _) => False
  | .scalar _ => True
  | .beginArray | .endArray | .beginObject | .endObject | .comma | .colon => False

def Readable : Mark → Prop
  | .scalar value => value.Readable
  | .beginArray | .endArray | .beginObject | .endObject | .comma | .colon => True

theorem isWord_scalar {value : Scalar} (word : (Mark.scalar value).IsWord)
    (readable : value.Readable) : value.IsWord := by
  cases value with
  | null => exact ⟨List.cons_ne_nil _ _, List.all_eq_true.mp rfl, rfl⟩
  | bool truth => cases truth <;> exact ⟨List.cons_ne_nil _ _, List.all_eq_true.mp rfl, rfl⟩
  | integer value => exact isWord_integer value
  | real numeral => exact readable
  | string text => exact word.elim

/-- A mark begins with `c` and is read from there on. -/
structure Begins (mark : Mark) (text : List Char) (c : Char) (tail : List Char) : Prop where
  spelled : mark.spell = c :: tail
  visible : isSpace c = false
  apart : ¬ mark.IsWord → isBare c = false
  read : readMark c (tail ++ text) = some (mark, text)

theorem begins_word {value : Scalar} (word : value.IsWord) (isWord : (Mark.scalar value).IsWord)
    {text : List Char} (ends : EndsBefore text) :
    ∃ c tail, (Mark.scalar value).Begins text c tail := by
  cases spelled : value.spell with
  | nil => exact absurd spelled word.nonempty
  | cons c tail =>
      have bare := word.bare
      rw [spelled, List.forall_mem_cons] at bare
      refine ⟨c, tail, spelled, isSpace_of_isBare bare.1, fun other => absurd isWord other, ?_⟩
      rw [readMark_bare bare.1, takeWhile_word bare.2 ends, dropWhile_word bare.2 ends, ← spelled,
        word.understood]
      rfl

theorem begins_string (value : String) (text : List Char) :
    ∃ c tail, (Mark.scalar (.string value)).Begins text c tail := by
  refine ⟨'\x22', value.toList.flatMap spellChar ++ ['\x22'], rfl, rfl, fun _ => rfl, ?_⟩
  rw [List.append_assoc]
  change (readString #[] (_ ++ '\x22' :: text)).map _ = _
  rw [readString_spelled]
  simp

theorem begins {mark : Mark} (readable : mark.Readable) (text : List Char)
    (ends : mark.IsWord → EndsBefore text) : ∃ c tail, mark.Begins text c tail := by
  cases mark with
  | scalar value =>
      by_cases isWord : (Mark.scalar value).IsWord
      · exact begins_word (isWord_scalar isWord readable) isWord (ends isWord)
      · cases value with
        | string value => exact begins_string value text
        | null | bool _ | integer _ | real _ => exact absurd trivial isWord
  | beginArray | endArray | beginObject | endObject | comma | colon =>
      exact ⟨_, [], rfl, rfl, fun _ => rfl, rfl⟩

end Mark

/-- The marks may stand behind a word. -/
def Follows (marks : List Mark) : Prop :=
  ∀ next ∈ marks.head?, ¬ next.IsWord

/-- The text spells the marks in order, with any blanks between them. -/
inductive Laid : List Char → List Mark → Prop
  | nil : Laid [] []
  | space {c : Char} {text : List Char} {marks : List Mark} (blank : isSpace c = true)
      (rest : Laid text marks) : Laid (c :: text) marks
  | mark {mark : Mark} {text : List Char} {marks : List Mark} (readable : mark.Readable)
      (apart : mark.IsWord → Follows marks) (rest : Laid text marks) :
      Laid (mark.spell ++ text) (mark :: marks)

namespace Laid

variable {text : List Char} {marks : List Mark}

theorem spaces {blanks : List Char} (blank : ∀ c ∈ blanks, isSpace c = true)
    (rest : Laid text marks) : Laid (blanks ++ text) marks := by
  induction blanks with
  | nil => exact rest
  | cons c blanks ih =>
      rw [List.forall_mem_cons] at blank
      exact .space blank.1 (ih blank.2)

theorem endsBefore (laid : Laid text marks) (apart : Follows marks) : EndsBefore text := by
  cases laid with
  | nil => simp [EndsBefore]
  | @space c text _ blank _ =>
      rintro _ ⟨⟩
      cases bare : isBare c with
      | false => rfl
      | true => simp [isSpace_of_isBare bare] at blank
  | @mark mark text marks readable follows rest =>
      have other : ¬ mark.IsWord := apart mark rfl
      obtain ⟨c, tail, begins⟩ := mark.begins readable text fun word => absurd word other
      rw [EndsBefore, begins.spelled]
      rintro d ⟨⟩
      exact begins.apart other

/-- Without its blanks a laid out text spells the same marks. -/
theorem squeeze (laid : Laid text marks) : Laid (marks.flatMap Mark.spell) marks := by
  induction laid with
  | nil => exact .nil
  | space _ _ ih => exact ih
  | mark readable apart _ ih => exact .mark readable apart ih

theorem readMarksOnto_eq (laid : Laid text marks) (done : Array Mark) :
    readMarksOnto done text = some (done.toList ++ marks) := by
  induction laid generalizing done with
  | nil => simp [readMarksOnto]
  | space blank _ ih => rw [readMarksOnto, if_pos blank, ih]
  | @mark mark text marks readable apart rest ih =>
      obtain ⟨c, tail, begins⟩ :=
        mark.begins readable text fun word => rest.endsBefore (apart word)
      rw [begins.spelled, List.cons_append, readMarksOnto, if_neg (by simp [begins.visible])]
      split
      case h_1 failed => simp [begins.read] at failed
      case h_2 found =>
        rw [begins.read, Option.some.injEq, Prod.mk.injEq] at found
        obtain ⟨rfl, rfl⟩ := found
        simp [ih]

theorem readMarks_eq (laid : Laid text marks) : readMarks text = some marks :=
  laid.readMarksOnto_eq #[]

end Laid

end Json

end Poco
