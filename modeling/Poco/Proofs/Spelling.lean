import Poco.Lexeme
import Poco.Proofs.Classes

namespace Poco

open Alphabet (quote symbols compoundOperators isBlank)

/-! Which texts are lexemes, and what it means to split a text by taking the
longest lexeme again and again.  Nothing here looks at how lexemes are read:
the shape of a lexeme shows in its first character, so the longest one is
unique, and so is the whole split. -/

/-- The texts that are lexemes of a shape. -/
inductive Spells : Shape → List Char → Prop
  | word {first : Char} {rest : List Char} (letter : first.isAlpha = true)
      (wordParts : ∀ c ∈ rest, c.isAlphanum = true) : Spells .word (first :: rest)
  | whole {digits : List Char} (nonempty : digits ≠ []) (digital : ∀ c ∈ digits, c.isDigit = true) :
      Spells .number digits
  | fraction {whole part : List Char} (nonempty : whole ≠ [])
      (digital : ∀ c ∈ whole, c.isDigit = true) (partNonempty : part ≠ [])
      (partDigital : ∀ c ∈ part, c.isDigit = true) : Spells .number (whole ++ '.' :: part)
  | symbol {text : List Char} (listed : text ∈ symbols) (unquoted : text ≠ [quote]) :
      Spells .symbol text
  | string {body : List Char} (unquoted : quote ∉ body) : Spells .string (quote :: body ++ [quote])
  | blank {c : Char} (blank : isBlank c = true) : Spells .blank [c]

/-- `text` is a lexeme, and no lexeme at the beginning of `text ++ rest` is longer. -/
structure Leads (shape : Shape) (text rest : List Char) : Prop where
  spells : Spells shape text
  longest : ∀ other lexeme, Spells other lexeme → lexeme <+: text ++ rest →
    lexeme.length ≤ text.length

/-- Taking the longest lexeme of `source` again and again gives `items`, and
`left` is what no lexeme begins. -/
inductive Munches : List Char → List (Shape × List Char) → List Char → Prop
  | stop {left : List Char} (stuck : ∀ shape text, Spells shape text → ¬ text <+: left) :
      Munches left [] left
  | step {shape : Shape} {text rest left : List Char} {items : List (Shape × List Char)}
      (leads : Leads shape text rest) (next : Munches rest items left) :
      Munches (text ++ rest) ((shape, text) :: items) left

/-- The shape of the lexemes that begin with `c`. -/
def Shape.opening (c : Char) : Shape :=
  if c = quote then .string
  else if c.isAlpha then .word
  else if c.isDigit then .number
  else if isBlank c then .blank
  else .symbol

theorem symbol_unquoted {text : List Char} (listed : text ∈ symbols) (unquoted : text ≠ [quote]) :
    quote ∉ text := by
  have all : ∀ text ∈ symbols, text = [quote] ∨ quote ∉ text := by decide
  exact (all text listed).resolve_left unquoted

namespace Spells

variable {shape other : Shape} {text lexeme : List Char}

theorem ne_nil (spells : Spells shape text) : text ≠ [] := by
  cases spells with
  | word => simp
  | whole nonempty => exact nonempty
  | fraction => simp
  | symbol listed =>
      have all : ∀ text ∈ symbols, text ≠ [] := by decide
      exact all text listed
  | string => simp
  | blank => simp

theorem closed (spells : Spells shape text) : shape ≠ .openString := by
  rintro rfl
  cases spells

/-- What the characters of a lexeme can be, strings aside. -/
theorem char_cases {c : Char} (spells : Spells shape text) (member : c ∈ text) :
    shape = .string ∨ shape = .blank ∧ isBlank c = true ∨ c.isAlphanum = true ∨
      ∃ listed ∈ symbols, listed ≠ [quote] ∧ c ∈ listed := by
  cases spells with
  | word letter wordParts =>
      rcases List.mem_cons.mp member with rfl | later
      · exact .inr (.inr (.inl (Alphabet.isAlphanum_of_isAlpha letter)))
      · exact .inr (.inr (.inl (wordParts c later)))
  | whole _ digital => exact .inr (.inr (.inl (Alphabet.isAlphanum_of_isDigit (digital c member))))
  | fraction _ digital _ partDigital =>
      rcases List.mem_append.mp member with whole | pointed
      · exact .inr (.inr (.inl (Alphabet.isAlphanum_of_isDigit (digital c whole))))
      · rcases List.mem_cons.mp pointed with rfl | part
        · exact .inr (.inr (.inr ⟨['.'], by decide, by decide, by decide⟩))
        · exact .inr (.inr (.inl (Alphabet.isAlphanum_of_isDigit (partDigital c part))))
  | symbol listed unquoted => exact .inr (.inr (.inr ⟨text, listed, unquoted, member⟩))
  | string => exact .inl rfl
  | blank blank =>
      obtain rfl := List.mem_singleton.mp member
      exact .inr (.inl ⟨rfl, blank⟩)

/-- The first character gives the shape away. -/
theorem shape_eq_opening {c : Char} {rest : List Char} (spells : Spells shape (c :: rest)) :
    shape = Shape.opening c := by
  have digitFirst : c.isDigit = true → Shape.opening c = .number := by
    intro digit
    have unquoted : c ≠ quote := by rintro rfl; exact absurd digit (by decide)
    simp [Shape.opening, unquoted, digit, Alphabet.not_isAlpha_of_isDigit digit]
  generalize line : c :: rest = text at spells
  cases spells with
  | word letter =>
      obtain ⟨rfl, rfl⟩ := List.cons.inj line
      have unquoted : c ≠ quote := by rintro rfl; exact absurd letter (by decide)
      simp [Shape.opening, unquoted, letter]
  | whole nonempty digital => exact (digitFirst (digital c (by simp [← line]))).symm
  | @fraction whole part nonempty digital =>
      cases whole with
      | nil => exact absurd rfl nonempty
      | cons digit whole =>
          obtain ⟨rfl, rfl⟩ := List.cons.inj line
          exact (digitFirst (digital c (by simp))).symm
  | symbol listed unquoted =>
      subst line
      obtain ⟨wordPart, blank⟩ := Alphabet.symbol_chars listed (by simp : c ∈ c :: rest)
      simp only [Char.isAlphanum, Bool.or_eq_false_iff] at wordPart
      have notQuote : c ≠ quote := by
        rintro rfl
        exact symbol_unquoted listed unquoted (by simp)
      simp [Shape.opening, notQuote, wordPart, blank]
  | string =>
      obtain ⟨rfl, rfl⟩ := List.cons.inj line
      simp [Shape.opening]
  | blank blank =>
      obtain ⟨rfl, rfl⟩ := List.cons.inj line
      have wordPart := Alphabet.not_isAlphanum_of_isBlank blank
      simp only [Char.isAlphanum, Bool.or_eq_false_iff] at wordPart
      have unquoted : c ≠ quote := by rintro rfl; exact absurd blank (by decide)
      simp [Shape.opening, unquoted, wordPart, blank]

/-- Two lexemes at the beginning of one text have the same shape. -/
theorem shape_unique {source : List Char} (first : Spells shape text) (second : Spells other lexeme)
    (begins : text <+: source) (alsoBegins : lexeme <+: source) : other = shape := by
  cases text with
  | nil => exact absurd rfl first.ne_nil
  | cons c rest =>
      cases lexeme with
      | nil => exact absurd rfl second.ne_nil
      | cons d more =>
          obtain ⟨behind, rfl⟩ := begins
          have same : d = c := (List.cons_prefix_cons.mp alsoBegins).1
          rw [first.shape_eq_opening, second.shape_eq_opening, same]

end Spells

namespace Leads

variable {shape other : Shape} {text lexeme rest behind : List Char}

/-- Only lexemes of the same shape compete. -/
theorem of_same_shape (spells : Spells shape text)
    (longest : ∀ lexeme, Spells shape lexeme → lexeme <+: text ++ rest →
      lexeme.length ≤ text.length) : Leads shape text rest where
  spells := spells
  longest := by
    intro other lexeme spelled begins
    obtain rfl := spells.shape_unique spelled (List.prefix_append text rest) begins
    exact longest lexeme spelled begins

theorem unique (first : Leads shape text rest) (second : Leads other lexeme behind)
    (source : text ++ rest = lexeme ++ behind) :
    other = shape ∧ lexeme = text ∧ behind = rest := by
  have begins : lexeme <+: text ++ rest := ⟨behind, source.symm⟩
  have alsoBegins : text <+: lexeme ++ behind := ⟨rest, source⟩
  have sameLength : lexeme.length = text.length :=
    Nat.le_antisymm (first.longest _ _ second.spells begins)
      (second.longest _ _ first.spells alsoBegins)
  obtain ⟨rfl, rfl⟩ := List.append_inj source sameLength.symm
  exact ⟨first.spells.shape_unique second.spells (List.prefix_append _ _) begins, rfl, rfl⟩

end Leads

namespace Munches

variable {source left other : List Char} {items others : List (Shape × List Char)}

/-- The pieces and what is left make up the source. -/
theorem flatMap_append (munches : Munches source items left) :
    items.flatMap (·.2) ++ left = source := by
  induction munches with
  | stop => rfl
  | step _ _ ih => simp [← ih]

/-- A text splits in one way only. -/
theorem unique (first : Munches source items left) (second : Munches source others other) :
    others = items ∧ other = left := by
  induction first generalizing others other with
  | stop stuck =>
      cases second with
      | stop => exact ⟨rfl, rfl⟩
      | step leads => exact absurd (List.prefix_append _ _) (stuck _ _ leads.spells)
  | @step shape text rest left items leads next ih =>
      generalize whole : text ++ rest = source at second
      cases second with
      | stop stuck => exact absurd ⟨rest, whole⟩ (stuck _ _ leads.spells)
      | step otherLeads otherNext =>
          obtain ⟨rfl, rfl, rfl⟩ := leads.unique otherLeads whole
          obtain ⟨rfl, rfl⟩ := ih otherNext
          exact ⟨rfl, rfl⟩

end Munches

end Poco
