import Poco.Lexeme

namespace Poco

/-! Lexemes can also be read with a cursor, an index into the kept characters that
every step moves on.  Such a walk indexes, cuts slices and works out places
anew, and whatever could go wrong with that is said. -/

/-- What could break off a walk. -/
inductive Misstep where
  /-- An index or a slice that is not within the characters. -/
  | outOfRange
  | fault (fault : Fault)
  deriving DecidableEq

namespace Walk

/-- What a step makes of the characters at the cursor, and where it leaves the cursor. -/
inductive Step where
  | emit (token : Token) (next : Nat)
  | skip (next : Nat)
  | fail (error : LexicalError) (next : Nat)
  /-- The characters end within a string because the scan halted there. -/
  | abandon

namespace Step

def next? : Step → Option Nat
  | .emit _ next | .skip next | .fail _ next => some next
  | .abandon => none

def token? : Step → Option Token
  | .emit token _ => some token
  | .skip _ | .fail _ _ | .abandon => none

def error? : Step → Option LexicalError
  | .fail error _ => some error
  | .emit _ _ | .skip _ | .abandon => none

def isSkip : Step → Bool
  | .skip _ => true
  | .emit _ _ | .fail _ _ | .abandon => false

end Step

open Lexeme (isDigit isQuote isWordPart)

variable (chars : Array Glyph)

def charAt (index : Nat) : Except Misstep Glyph :=
  match chars[index]? with
  | some glyph => .ok glyph
  | none => .error .outOfRange

/-- The characters from one index up to another. -/
def slice (start stop : Nat) : Except Misstep (List Glyph) :=
  if start ≤ stop ∧ stop ≤ chars.size then
    .ok ((chars.toList.drop start).take (stop - start))
  else
    .error .outOfRange

def text (glyphs : List Glyph) : String :=
  .ofList (glyphs.map (·.char))

/-- The place behind a character, worked out from where it stands. -/
def placeBehind (glyph : Glyph) : Except Misstep Position :=
  (glyph.span.start.advance glyph.char).mapError .fault

def between (start stop : Position) : Except Misstep Span :=
  (Span.between start stop).mapError .fault

/-- The span from the character at `start` to the one before `stop`. -/
def spanOf (start stop : Nat) : Except Misstep Span := do
  let first ← charAt chars start
  let last ← if 0 < stop then charAt chars (stop - 1) else .error (.fault .subtractionOverflow)
  let place ← placeBehind last
  between first.span.start place

def stringStep (halted : Bool) (start : Nat) : Except Misstep Step := do
  let opening ← charAt chars start
  let behind ← slice chars (start + 1) chars.size
  let body := behind.takeWhile (fun glyph => !isQuote glyph)
  match behind.dropWhile (fun glyph => !isQuote glyph) with
  | close :: _ =>
      let place ← placeBehind close
      let span ← between opening.span.start place
      .ok (.emit { kind := .string, value := text body, span } (start + body.length + 2))
  | [] =>
      if halted then
        .ok .abandon
      else
        let position := opening.span.start
        .ok (.fail (.unterminatedString position.line position.column) chars.size)

/-- The index behind the digits from `cursor` on, with a point before a digit among them unless
one came already. -/
def numberEnd (pointed : Bool) (cursor : Nat) : Nat :=
  if within : cursor < chars.size then
    let glyph := chars[cursor]
    if isDigit glyph then
      numberEnd pointed (cursor + 1)
    else if !pointed && glyph.char == '.' && chars[cursor + 1]?.any isDigit then
      numberEnd true (cursor + 1)
    else
      cursor
  else
    cursor
termination_by chars.size - cursor

def numberStep (start : Nat) : Except Misstep Step := do
  let stop := numberEnd chars false start
  let digits ← slice chars start stop
  let span ← spanOf chars start stop
  .ok (.emit { kind := .number, value := text digits, span } stop)

def wordStep (start : Nat) : Except Misstep Step := do
  let behind ← slice chars start chars.size
  let stop := start + (behind.takeWhile isWordPart).length
  let parts ← slice chars start stop
  let word := text parts
  let kind : TokenKind := if Alphabet.isReservedWord word then .statement else .identifier
  let span ← spanOf chars start stop
  .ok (.emit { kind, value := word, span } stop)

def singleStep (current : Glyph) (start : Nat) : Except Misstep Step := do
  let span ← (Span.single current.span.start current.char).mapError .fault
  .ok (.emit { kind := .symbol, value := text [current], span } (start + 1))

def symbolStep (start : Nat) : Except Misstep Step := do
  let current ← charAt chars start
  if current.kind = .whitespace then
    .ok (.skip (start + 1))
  else
    match chars[start + 1]? with
    | some next =>
        if CharClass.ofPair current.char next.char = .symbol then
          let span ← spanOf chars start (start + 2)
          .ok (.emit { kind := .symbol, value := text [current, next], span } (start + 2))
        else
          singleStep current start
    | none => singleStep current start

/-- The step that the character at the cursor calls for. -/
def step (halted : Bool) (cursor : Nat) : Except Misstep Step := do
  let current ← charAt chars cursor
  if isQuote current then
    stringStep chars halted cursor
  else
    match current.kind with
    | .number => numberStep chars cursor
    | .identifier => wordStep chars cursor
    | .whitespace | .symbol | .unrecognized => symbolStep chars cursor

end Walk

/-- The steps from a cursor until the characters end or a string is abandoned. -/
inductive Walks (halted : Bool) (chars : Array Glyph) : Nat → List Walk.Step → Prop
  | ends {cursor : Nat} (past : chars.size ≤ cursor) : Walks halted chars cursor []
  | abandons {cursor : Nat} (taken : Walk.step chars halted cursor = .ok .abandon) :
      Walks halted chars cursor [.abandon]
  | goesOn {cursor next : Nat} {step : Walk.Step} {steps : List Walk.Step}
      (taken : Walk.step chars halted cursor = .ok step) (goesTo : step.next? = some next)
      (rest : Walks halted chars next steps) : Walks halted chars cursor (step :: steps)

end Poco
