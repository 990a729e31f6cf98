import Poco.Proofs.Running

namespace Poco

open Alphabet (quote)

/-- The kind of a token and its text. -/
def Token.spelling (token : Token) : TokenKind × String :=
  (token.kind, token.value)

/-- The token that a lexeme of a shape and a text stands for: none for a blank, and without
the quotes for a string. -/
def Shape.token? (shape : Shape) (text : List Char) : Option (TokenKind × String) :=
  match shape with
  | .blank | .openString => none
  | .word =>
      let word := String.ofList text
      some (if word ∈ Alphabet.reservedWords then .statement else .identifier, word)
  | .number => some (.number, .ofList text)
  | .symbol => some (.symbol, .ofList text)
  | .string => some (.string, .ofList text.tail.dropLast)

namespace Lexeme

theorem toToken?_spelling (lexeme : Lexeme) :
    lexeme.toToken?.map Token.spelling = lexeme.shape.token? lexeme.chars := by
  obtain ⟨shape, first, others⟩ := lexeme
  cases shape with
  | word =>
      simp only [toToken?, tokenKind?, value, Shape.token?, Alphabet.isReservedWord,
        List.contains_iff_mem]
      split <;> rfl
  | string => simp [toToken?, tokenKind?, value, Shape.token?, Token.spelling, chars, glyphs]
  | blank => rfl
  | number => rfl
  | symbol => rfl
  | openString => rfl

theorem tokens_spelling (lexemes : List Lexeme) :
    (lexemes.filterMap toToken?).map Token.spelling =
      (pieces lexemes).filterMap (fun piece => piece.1.token? piece.2) := by
  induction lexemes with
  | nil => rfl
  | cons lexeme rest ih =>
      have spelling := lexeme.toToken?_spelling
      cases closed : lexeme.isOpen with
      | true =>
          have nothing : lexeme.toToken? = none := by
            have shape : lexeme.shape = .openString := by simpa [isOpen] using closed
            simp [toToken?, tokenKind?, shape]
          simpa [pieces, closed, nothing] using ih
      | false =>
          cases token : lexeme.toToken? with
          | none =>
              have silent : lexeme.shape.token? lexeme.chars = none := by rw [← spelling, token]; rfl
              simpa [pieces, closed, token, silent] using ih
          | some token' =>
              have spoken : lexeme.shape.token? lexeme.chars = some token'.spelling := by
                rw [← spelling, token]
                rfl
              simpa [pieces, closed, token, spoken] using ih

end Lexeme

/-- A run whose kept characters split into `pieces`, up to `left`. -/
structure SplitsLongest (policy : RecoveryPolicy) (source : List Char) (run : Run)
    (pieces : List (Shape × List Char)) (left : List Char) : Prop where
  split : ∀ others other,
    Munches (Scan.keptChars policy source) others other ↔ others = pieces ∧ other = left
  tokens : run.tokens.map Token.spelling =
    pieces.filterMap (fun piece => piece.1.token? piece.2)
  left_cases : left = [] ∨ ∃ body, left = quote :: body ∧ quote ∉ body
  reported : (∃ diagnostic ∈ run.diagnostics, diagnostic.kind = some .unterminatedString) ↔
    left ≠ [] ∧ run.haltedAt = none

theorem Run.reports_open_iff (preferences : LexicalPreferences) (source : List Char) :
    (∃ diagnostic ∈ (Run.whole preferences source).diagnostics,
        diagnostic.kind = some .unterminatedString) ↔
      Lexeme.unread (Lexeme.ofSource preferences.recoveryPolicy source) ≠ [] ∧
        (Run.whole preferences source).haltedAt = none := by
  rw [Ne, Lexeme.unread_eq_nil_iff, List.filter_eq_nil_iff]
  constructor
  · rintro ⟨diagnostic, reported⟩
    obtain ⟨running, lexeme, member, open_, -⟩ := Run.open_diagnostic_iff.mp reported
    exact ⟨fun nothing => nothing lexeme member open_, running⟩
  · rintro ⟨someOpen, running⟩
    simp only [not_forall, Decidable.not_not] at someOpen
    obtain ⟨lexeme, member, open_⟩ := someOpen
    exact ⟨_, Run.open_diagnostic_iff.mpr ⟨running, lexeme, member, open_, rfl⟩⟩

theorem tokenize_takes_longest (preferences : LexicalPreferences) (source : String)
    (short : source.length ≤ UInt32.size - 2) :
    ∃ run pieces left, tokenize preferences source = .ok run ∧
      SplitsLongest preferences.recoveryPolicy source.toList run pieces left := by
  have reading := Lexeme.reading_ofSource preferences.recoveryPolicy source.toList
  have munches := reading.munches
  rw [Lexeme.flatMap_chars_ofSource] at munches
  let lexemes := Lexeme.ofSource preferences.recoveryPolicy source.toList
  refine ⟨_, Lexeme.pieces lexemes, Lexeme.unread lexemes, tokenize_eq preferences short, ?_⟩
  constructor
  · intro others other
    constructor
    · exact munches.unique
    · rintro ⟨rfl, rfl⟩
      exact munches
  · exact Lexeme.tokens_spelling _
  · exact reading.unread_cases
  · exact Run.reports_open_iff preferences source.toList

theorem tokenize_takes_longest_mixed :
    "1.2.3<==9x@ 'a b'->let'".length ≤ UInt32.size - 2 ∧
      ∃ run pieces left, tokenize {} "1.2.3<==9x@ 'a b'->let'" = .ok run ∧
        SplitsLongest .resynchronize "1.2.3<==9x@ 'a b'->let'".toList run pieces left :=
  ⟨by decide, tokenize_takes_longest {} "1.2.3<==9x@ 'a b'->let'" (by decide)⟩

end Poco
