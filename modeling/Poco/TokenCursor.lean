import Poco.LineIndex
import Poco.Token
import Poco.Log.Code

namespace Poco

/-- Why the wanted token is not the next one. -/
inductive CursorError where
  | unexpectedToken (expected found : String) (span : Span)
  | unexpectedEnd (expected : String)
  deriving DecidableEq

namespace CursorError

def code : CursorError → String
  | .unexpectedToken .. => Code.unexpectedToken
  | .unexpectedEnd _ => Code.unexpectedEnd

def span? : CursorError → Option Span
  | .unexpectedToken _ _ span => some span
  | .unexpectedEnd _ => none

def message : CursorError → String
  | .unexpectedToken expected found span =>
      "Expected " ++ expected ++ ", found '" ++ found ++ "' at " ++ span.describe
  | .unexpectedEnd expected =>
      "Expected " ++ expected ++ ", but reached end of input"

end CursorError

structure TokenCursor where
  tokens : Array Token
  position : Nat := 0
  index : Option LineIndex := none

namespace TokenCursor

def current? (cursor : TokenCursor) : Option Token :=
  cursor.tokens[cursor.position]?

/-- The token `distance` places ahead; the sum is a machine word. -/
def lookAhead? (cursor : TokenCursor) (distance : Nat) : Except Fault (Option Token) :=
  if cursor.position + distance < UInt64.size then
    .ok cursor.tokens[cursor.position + distance]?
  else
    .error .additionOverflow

def peek? (cursor : TokenCursor) : Except Fault (Option Token) :=
  cursor.lookAhead? 1

/-- The cursor one token on, or the same at its end. -/
def advance (cursor : TokenCursor) : TokenCursor :=
  if cursor.position < cursor.tokens.size then
    { cursor with position := cursor.position + 1 }
  else
    cursor

def isAtEnd (cursor : TokenCursor) : Bool :=
  decide (cursor.tokens.size ≤ cursor.position)

def remaining (cursor : TokenCursor) : List Token :=
  cursor.tokens.toList.drop cursor.position

def isAtKind (cursor : TokenCursor) (kind : TokenKind) : Bool :=
  cursor.current?.any (·.kind == kind)

def isAtValue (cursor : TokenCursor) (value : String) : Bool :=
  cursor.current?.any (·.value == value)

/-- Take the current token if it is a wanted one. -/
def takeIf (cursor : TokenCursor) (wanted : Token → Bool) : Option Token × TokenCursor :=
  match cursor.current? with
  | some token => if wanted token then (some token, cursor.advance) else (none, cursor)
  | none => (none, cursor)

/-- Take the current token, which has to be a wanted one. -/
def expect (cursor : TokenCursor) (wanted : Token → Bool) (expected : String) :
    Except CursorError Token × TokenCursor :=
  match cursor.current? with
  | some token =>
      if wanted token then
        (.ok token, cursor.advance)
      else
        (.error (.unexpectedToken expected token.sourceText token.span), cursor)
  | none => (.error (.unexpectedEnd expected), cursor)

def expectKind (cursor : TokenCursor) (kind : TokenKind) :
    Except CursorError Token × TokenCursor :=
  cursor.expect (·.kind == kind) kind.name

def expectSymbol (cursor : TokenCursor) (symbol : String) :
    Except CursorError Token × TokenCursor :=
  cursor.expect (·.isSymbol symbol) ("'" ++ symbol ++ "'")

/-- A remembered place, which any cursor may return to as far as it reaches. -/
structure Bookmark where
  position : Nat

def bookmark (cursor : TokenCursor) : Bookmark :=
  { position := cursor.position }

def goTo (cursor : TokenCursor) (bookmark : Bookmark) : TokenCursor :=
  { cursor with position := min bookmark.position cursor.tokens.size }

/-- An error in the source, at the last token when it has no place of its own. -/
def explain (cursor : TokenCursor) (error : CursorError) : String :=
  match cursor.index, error.span?.or (cursor.tokens.back?.map (·.span)) with
  | some index, some span => index.underline span error.message
  | _, _ => "Error: " ++ error.message

end TokenCursor

end Poco
