import Poco.Proofs.LongestMatch

namespace Poco

open Alphabet (quote symbols isBlank recognizes)

/-- The values that tokens of a kind can have. -/
def TokenKind.Admits (kind : TokenKind) (value : String) : Prop :=
  match kind with
  | .statement => value ∈ Alphabet.reservedWords
  | .identifier => Spells .word value.toList ∧ value ∉ Alphabet.reservedWords
  | .number => Spells .number value.toList
  | .symbol => value.toList ∈ symbols ∧ value.toList ≠ [quote]
  | .string => ∀ c ∈ value.toList, recognizes c = true ∧ c ≠ quote

def Token.Valid (token : Token) : Prop :=
  token.kind.Admits token.value

def TokenKind.shape : TokenKind → Shape
  | .symbol => .symbol
  | .number => .number
  | .identifier | .statement => .word
  | .string => .string

namespace Alphabet

theorem recognizes_of_isAlphanum {c : Char} (wordPart : c.isAlphanum = true) :
    recognizes c = true := by
  rw [Char.isAlphanum, Bool.or_eq_true] at wordPart
  rcases wordPart with letter | digit
  · simp [recognizes, (CharClass.of_eq_identifier_iff c).mpr letter]
  · simp [recognizes, (CharClass.of_eq_number_iff c).mpr digit]

theorem recognizes_of_isBlank {c : Char} (blank : isBlank c = true) : recognizes c = true := by
  simp [recognizes, (CharClass.of_eq_whitespace_iff c).mpr blank]

theorem recognizes_of_symbol {text : List Char} (listed : text ∈ symbols) {c : Char}
    (member : c ∈ text) : recognizes c = true := by
  have parts : ∀ text ∈ symbols, text.all (fun c => [c] ∈ symbols) = true := by decide
  have single : [c] ∈ symbols := by simpa using List.all_eq_true.mp (parts text listed) c member
  simp [recognizes, (CharClass.of_eq_symbol_iff c).mpr single]

theorem spells_of_reserved {word : String} (reserved : word ∈ reservedWords) :
    Spells .word word.toList := by
  have all : ∀ word ∈ reservedWords,
      word.toList ≠ [] ∧ word.toList.all Char.isAlpha = true := by decide
  obtain ⟨nonempty, lettered⟩ := all word reserved
  have letters := List.all_eq_true.mp lettered
  obtain ⟨first, rest, split⟩ := List.exists_cons_of_ne_nil nonempty
  rw [split] at letters ⊢
  refine .word (letters first (by simp)) ?_
  intro c member
  exact isAlphanum_of_isAlpha (letters c (by simp [member]))

end Alphabet

/-- Outside strings lexemes have only recognized characters. -/
theorem Spells.recognized {shape : Shape} {text : List Char} (spells : Spells shape text)
    (otherShape : shape ≠ .string) : ∀ c ∈ text, recognizes c = true := by
  intro c member
  rcases spells.char_cases member with string | ⟨-, blank⟩ | wordPart | ⟨symbol, listed, -, inside⟩
  · exact absurd string otherShape
  · exact Alphabet.recognizes_of_isBlank blank
  · exact Alphabet.recognizes_of_isAlphanum wordPart
  · exact Alphabet.recognizes_of_symbol listed inside

namespace Token

variable {token : Token}

theorem Valid.spells (valid : token.Valid) : Spells token.kind.shape token.sourceText.toList := by
  obtain ⟨kind, value, span⟩ := token
  cases kind with
  | symbol => exact .symbol valid.1 valid.2
  | number => exact valid
  | identifier => exact valid.1
  | statement => exact Alphabet.spells_of_reserved valid
  | string =>
      have unquoted : quote ∉ value.toList := fun member => (valid quote member).2 rfl
      simpa [TokenKind.shape, sourceText, quote] using Spells.string unquoted

theorem Valid.token? (valid : token.Valid) :
    token.kind.shape.token? token.sourceText.toList = some token.spelling := by
  obtain ⟨kind, value, span⟩ := token
  cases kind with
  | symbol => simp [TokenKind.shape, Shape.token?, sourceText, spelling]
  | number => simp [TokenKind.shape, Shape.token?, sourceText, spelling]
  | identifier => simp [TokenKind.shape, Shape.token?, sourceText, spelling, valid.2]
  | statement =>
      have reserved : value ∈ Alphabet.reservedWords := valid
      simp [TokenKind.shape, Shape.token?, sourceText, spelling, reserved]
  | string => simp [TokenKind.shape, Shape.token?, sourceText, spelling]

theorem Valid.recognized (valid : token.Valid) :
    ∀ c ∈ token.sourceText.toList, recognizes c = true := by
  have spells := valid.spells
  obtain ⟨kind, value, span⟩ := token
  cases kind with
  | string =>
      intro c member
      have cases : c = quote ∨ c ∈ value.toList := by
        simpa [sourceText, quote, or_comm, or_assoc] using member
      rcases cases with rfl | inside
      · decide
      · exact (valid c inside).1
  | symbol => exact spells.recognized (by simp [TokenKind.shape])
  | number => exact spells.recognized (by simp [TokenKind.shape])
  | identifier => exact spells.recognized (by simp [TokenKind.shape])
  | statement => exact spells.recognized (by simp [TokenKind.shape])

/-- A lexeme of recognized characters makes a valid token. -/
theorem valid_of_spells {shape : Shape} {text : List Char} (spells : Spells shape text)
    (recognized : ∀ c ∈ text, recognizes c = true)
    (spoken : shape.token? text = some token.spelling) : token.Valid := by
  obtain ⟨kind, value, span⟩ := token
  cases shape with
  | blank => contradiction
  | openString => contradiction
  | number =>
      obtain ⟨rfl, rfl⟩ := Prod.mk.inj (Option.some.inj spoken)
      simpa [Valid, TokenKind.Admits] using spells
  | symbol =>
      obtain ⟨rfl, rfl⟩ := Prod.mk.inj (Option.some.inj spoken)
      cases spells with
      | symbol listed unquoted => simpa [Valid, TokenKind.Admits] using ⟨listed, unquoted⟩
  | word =>
      obtain ⟨rfl, rfl⟩ := Prod.mk.inj (Option.some.inj spoken)
      by_cases reserved : String.ofList text ∈ Alphabet.reservedWords
      · simp [Valid, TokenKind.Admits, reserved]
      · simpa [Valid, TokenKind.Admits, reserved] using spells
  | string =>
      obtain ⟨rfl, rfl⟩ := Prod.mk.inj (Option.some.inj spoken)
      cases spells with
      | @string body unquoted =>
          intro c member
          have inside : c ∈ body := by simpa using member
          refine ⟨recognized c (by simp [inside]), ?_⟩
          rintro rfl
          exact unquoted inside

end Token

namespace Scan

variable {policy : RecoveryPolicy} {scan result : Scan} {position : Position}

/-- A scan that gets past a character has found room for its place. -/
theorem advances_of_extend {c : Char} {rest : List Char}
    (ran : extend policy scan position (c :: rest) = .ok result)
    (passes : recognizes c = true ∨ policy = .resynchronize) :
    ∃ stop, position.advance c = .ok stop := by
  cases advanced : position.advance c with
  | ok stop => exact ⟨stop, rfl⟩
  | error fault =>
      rw [extend.eq_def] at ran
      rcases passes with known | rfl
      · have recognized : CharClass.of c ≠ .unrecognized := by simpa [recognizes] using known
        simp [recognized, advanced] at ran
      · simp [advanced] at ran

theorem genuine_extend {text : List Char} (ran : extend policy scan position text = .ok result)
    (genuine : ∀ glyph ∈ scan.kept.toList, glyph.Genuine) :
    ∀ glyph ∈ result.kept.toList, glyph.Genuine := by
  induction text generalizing scan position with
  | nil =>
      rw [extend] at ran
      cases ran
      exact genuine
  | cons c rest ih =>
      cases known : recognizes c with
      | true =>
          obtain ⟨stop, advanced⟩ := advances_of_extend ran (.inl known)
          rw [extend_known rest known advanced] at ran
          refine ih ran ?_
          intro glyph member
          simp only [keep, Array.toList_push, List.mem_append, List.mem_singleton] at member
          rcases member with earlier | rfl
          · exact genuine glyph earlier
          · exact ⟨rfl, known⟩
      | false =>
          cases policy with
          | halt =>
              rw [extend_halts rest known] at ran
              cases ran
              exact genuine
          | resynchronize =>
              obtain ⟨stop, advanced⟩ := advances_of_extend ran (.inr rfl)
              rw [extend_foreign rest known advanced] at ran
              exact ih ran genuine

end Scan

theorem Lexeme.valid_of_toToken? {lexeme : Lexeme} {lexemes : List Lexeme} {token : Token}
    (reading : Reading lexemes) (among : lexeme ∈ lexemes)
    (genuine : ∀ glyph ∈ lexemes.flatMap glyphs, glyph.Genuine)
    (found : lexeme.toToken? = some token) : token.Valid := by
  have spoken : lexeme.shape.token? lexeme.chars = some token.spelling := by
    rw [← toToken?_spelling, found]
    rfl
  have closed : lexeme.isOpen = false := by
    rw [isOpen, beq_eq_false_iff_ne]
    intro open_
    simp [Shape.token?, open_] at spoken
  refine Token.valid_of_spells (reading.spells_of_closed among closed) ?_ spoken
  intro c member
  obtain ⟨glyph, inside, rfl⟩ := List.mem_map.mp member
  exact (genuine glyph (List.mem_flatMap_of_mem among inside)).known

/-- Whatever the source, and however long, the tokens of a run are valid. -/
theorem Run.valid_of_tokenizeChars {preferences : LexicalPreferences} {source : List Char}
    {run : Run} (ran : tokenizeChars preferences source = .ok run) :
    ∀ token ∈ run.tokens, token.Valid := by
  intro token member
  obtain ⟨scan, scanned, tokens, -⟩ := parts_of_tokenizeChars ran
  have genuine : ∀ glyph ∈ scan.kept.toList, glyph.Genuine := Scan.genuine_extend scanned (by simp)
  rw [tokens] at member
  obtain ⟨lexeme, among, found⟩ := List.mem_filterMap.mp member
  refine Lexeme.valid_of_toToken? (Lexeme.reading_ofGlyphs _ genuine) among ?_ found
  rw [Lexeme.flatMap_glyphs_ofGlyphs]
  exact genuine

end Poco
