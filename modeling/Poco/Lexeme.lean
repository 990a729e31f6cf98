import Poco.Scan
import Poco.Token

namespace Poco

inductive Shape where
  | blank
  | word
  | number
  | symbol
  | string
  /-- A quote that nothing closes, with everything behind it. -/
  | openString
  deriving DecidableEq

structure Lexeme where
  shape : Shape
  first : Glyph
  /-- The characters after the first. -/
  others : List Glyph
  deriving DecidableEq

namespace Lexeme

def glyphs (lexeme : Lexeme) : List Glyph :=
  lexeme.first :: lexeme.others

def chars (lexeme : Lexeme) : List Char :=
  lexeme.glyphs.map (·.char)

def last (lexeme : Lexeme) : Glyph :=
  lexeme.others.getLast?.getD lexeme.first

def isDigit (glyph : Glyph) : Bool :=
  glyph.kind == .number

def isWordPart (glyph : Glyph) : Bool :=
  glyph.kind == .identifier || glyph.kind == .number

def isQuote (glyph : Glyph) : Bool :=
  glyph.char == Alphabet.quote

/-- The string that `first` opens, and what follows it. -/
def readString (first : Glyph) (tail : List Glyph) : Lexeme × List Glyph :=
  let body := tail.takeWhile (fun glyph => !isQuote glyph)
  match tail.dropWhile (fun glyph => !isQuote glyph) with
  | [] => ({ shape := .openString, first, others := body }, [])
  | close :: rest => ({ shape := .string, first, others := body ++ [close] }, rest)

/-- The number that `first` begins, and what follows it. -/
def readNumber (first : Glyph) (tail : List Glyph) : Lexeme × List Glyph :=
  let whole := tail.takeWhile isDigit
  match tail.dropWhile isDigit with
  | point :: digit :: rest =>
      if point.char = '.' ∧ isDigit digit then
        let fraction := rest.takeWhile isDigit
        ({ shape := .number, first, others := whole ++ point :: digit :: fraction },
          rest.dropWhile isDigit)
      else
        ({ shape := .number, first, others := whole }, point :: digit :: rest)
  | rest => ({ shape := .number, first, others := whole }, rest)

def readWord (first : Glyph) (tail : List Glyph) : Lexeme × List Glyph :=
  ({ shape := .word, first, others := tail.takeWhile isWordPart }, tail.dropWhile isWordPart)

/-- The operator that `first` begins: two characters when they merge. -/
def readSymbol (first : Glyph) (tail : List Glyph) : Lexeme × List Glyph :=
  match tail with
  | [] => ({ shape := .symbol, first, others := [] }, [])
  | second :: rest =>
      if CharClass.ofPair first.char second.char = .symbol then
        ({ shape := .symbol, first, others := [second] }, rest)
      else
        ({ shape := .symbol, first, others := [] }, second :: rest)

/-- The lexeme that begins with `first`, and what follows it. -/
def read (first : Glyph) (tail : List Glyph) : Lexeme × List Glyph :=
  if isQuote first then
    readString first tail
  else
    match first.kind with
    | .number => readNumber first tail
    | .identifier => readWord first tail
    | .whitespace => ({ shape := .blank, first, others := [] }, tail)
    | .symbol | .unrecognized => readSymbol first tail

/-- Reading a lexeme loses nothing. -/
theorem read_glyphs (first : Glyph) (tail : List Glyph) :
    (read first tail).1.glyphs ++ (read first tail).2 = first :: tail := by
  have splits (keep : Glyph → Bool) (glyphs : List Glyph) :
      glyphs.takeWhile keep ++ glyphs.dropWhile keep = glyphs :=
    List.takeWhile_append_dropWhile
  have strings : (readString first tail).1.glyphs ++ (readString first tail).2 = first :: tail := by
    have split := splits (fun glyph => !isQuote glyph) tail
    unfold readString
    cases after : tail.dropWhile (fun glyph => !isQuote glyph) with
    | nil => simpa [glyphs, after] using split
    | cons close rest => simpa [glyphs, after] using split
  have numbers : (readNumber first tail).1.glyphs ++ (readNumber first tail).2 = first :: tail := by
    have split := splits isDigit tail
    unfold readNumber
    cases after : tail.dropWhile isDigit with
    | nil => simpa [glyphs, after] using split
    | cons point others =>
        cases others with
        | nil => simpa [glyphs, after] using split
        | cons digit rest =>
            by_cases fraction : point.char = '.' ∧ isDigit digit
            · simpa [glyphs, after, fraction, splits isDigit rest] using split
            · simpa [glyphs, after, fraction] using split
  have words : (readWord first tail).1.glyphs ++ (readWord first tail).2 = first :: tail := by
    simp [readWord, glyphs, splits]
  have symbols : (readSymbol first tail).1.glyphs ++ (readSymbol first tail).2 = first :: tail := by
    unfold readSymbol
    split
    · rfl
    · split <;> rfl
  unfold read
  split
  · exact strings
  · split
    · exact numbers
    · exact words
    · rfl
    · exact symbols
    · exact symbols

theorem read_shorter (first : Glyph) (tail : List Glyph) :
    (read first tail).2.length < (first :: tail).length := by
  have lengths := congrArg List.length (read_glyphs first tail)
  simp [glyphs] at lengths ⊢
  omega

/-- The lexemes of `glyphs`, after those in `done`. -/
def readAllOnto (done : Array Lexeme) : List Glyph → Array Lexeme
  | [] => done
  | first :: tail => readAllOnto (done.push (read first tail).1) (read first tail).2
termination_by glyphs => glyphs.length
decreasing_by exact read_shorter first tail

def ofGlyphs (glyphs : List Glyph) : List Lexeme :=
  (readAllOnto #[] glyphs).toList

theorem readAllOnto_toList (done : Array Lexeme) (glyphs : List Glyph) :
    (readAllOnto done glyphs).toList = done.toList ++ ofGlyphs glyphs := by
  match glyphs with
  | [] => simp [ofGlyphs, readAllOnto]
  | first :: tail =>
      rw [ofGlyphs, readAllOnto, readAllOnto,
        readAllOnto_toList _ (read first tail).2, readAllOnto_toList _ (read first tail).2]
      simp
termination_by glyphs.length
decreasing_by all_goals exact read_shorter first tail

@[simp] theorem ofGlyphs_nil : ofGlyphs [] = [] := by
  simp [ofGlyphs, readAllOnto]

theorem ofGlyphs_cons (first : Glyph) (tail : List Glyph) :
    ofGlyphs (first :: tail) = (read first tail).1 :: ofGlyphs (read first tail).2 := by
  rw [ofGlyphs, readAllOnto, readAllOnto_toList]
  simp

/-- The lexemes partition the characters. -/
theorem flatMap_glyphs_ofGlyphs (glyphs : List Glyph) :
    (ofGlyphs glyphs).flatMap Lexeme.glyphs = glyphs := by
  match glyphs with
  | [] => simp
  | first :: tail =>
      rw [ofGlyphs_cons, List.flatMap_cons, flatMap_glyphs_ofGlyphs (read first tail).2]
      exact read_glyphs first tail
termination_by glyphs.length
decreasing_by exact read_shorter first tail

/-- The text of the token: without the quotes for a string. -/
def value (lexeme : Lexeme) : String :=
  match lexeme.shape with
  | .string => String.ofList (lexeme.others.dropLast.map (·.char))
  | _ => String.ofList lexeme.chars

def tokenKind? (lexeme : Lexeme) : Option TokenKind :=
  match lexeme.shape with
  | .blank | .openString => none
  | .number => some .number
  | .symbol => some .symbol
  | .string => some .string
  | .word => if Alphabet.isReservedWord lexeme.value then some .statement else some .identifier

def span (lexeme : Lexeme) : Except Fault Span :=
  Span.between lexeme.first.span.start lexeme.last.span.stop

def token? (lexeme : Lexeme) : Except Fault (Option Token) :=
  match lexeme.tokenKind? with
  | none => .ok none
  | some kind => do
      let span ← lexeme.span
      .ok (some { kind, value := lexeme.value, span })

/-- The tokens of `lexemes`, after those in `done`. -/
def tokensOnto (done : Array Token) : List Lexeme → Except Fault (Array Token)
  | [] => .ok done
  | lexeme :: rest =>
      match lexeme.token? with
      | .error fault => .error fault
      | .ok none => tokensOnto done rest
      | .ok (some token) => tokensOnto (done.push token) rest

def tokens (lexemes : List Lexeme) : Except Fault (List Token) :=
  (tokensOnto #[] lexemes).map (·.toList)

end Lexeme

end Poco
