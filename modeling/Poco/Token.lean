import Poco.Alphabet
import Poco.Span
import Poco.Text.Quoted

namespace Poco

inductive TokenKind where
  | symbol
  | number
  | identifier
  | statement
  | string
  deriving DecidableEq

namespace TokenKind

def all : List TokenKind :=
  [.symbol, .number, .identifier, .statement, .string]

def name : TokenKind → String
  | .symbol => "symbol"
  | .number => "number"
  | .identifier => "identifier"
  | .statement => "statement"
  | .string => "string"

def label : TokenKind → String
  | .symbol => "Symbol"
  | .number => "Number"
  | .identifier => "Identifier"
  | .statement => "Statement"
  | .string => "String"

def isLiteral : TokenKind → Bool
  | .number | .string => true
  | .symbol | .identifier | .statement => false

end TokenKind

structure Token where
  kind : TokenKind
  value : String
  span : Span
  deriving DecidableEq

namespace Token

def position (token : Token) : Position :=
  token.span.start

def isSymbol (token : Token) (symbol : String) : Bool :=
  token.kind == .symbol && token.value == symbol

def isStatement (token : Token) (word : String) : Bool :=
  token.kind == .statement && token.value == word

/-- The text as a source would spell it. -/
def sourceText (token : Token) : String :=
  match token.kind with
  | .string => "'" ++ token.value ++ "'"
  | .symbol | .number | .identifier | .statement => token.value

def describe (token : Token) : String :=
  token.kind.name ++ " " ++ Text.quoted token.value ++ " at " ++ token.position.describe

end Token

structure TokenCounts where
  total : Nat := 0
  statements : Nat := 0
  identifiers : Nat := 0
  numbers : Nat := 0
  strings : Nat := 0
  symbols : Nat := 0
  compoundOperators : Nat := 0
  deriving DecidableEq

namespace TokenCounts

def literals (counts : TokenCounts) : Nat :=
  counts.numbers + counts.strings

def hasContent (counts : TokenCounts) : Bool :=
  decide (0 < counts.total)

def add (counts : TokenCounts) (token : Token) : TokenCounts :=
  let counts := { counts with total := counts.total + 1 }
  match token.kind with
  | .statement => { counts with statements := counts.statements + 1 }
  | .identifier => { counts with identifiers := counts.identifiers + 1 }
  | .number => { counts with numbers := counts.numbers + 1 }
  | .string => { counts with strings := counts.strings + 1 }
  | .symbol =>
      let compound := if Alphabet.isCompoundOperator token.value.toList then 1 else 0
      { counts with
        symbols := counts.symbols + 1
        compoundOperators := counts.compoundOperators + compound }

def ofTokens (tokens : List Token) : TokenCounts :=
  tokens.foldl add {}

end TokenCounts

end Poco
