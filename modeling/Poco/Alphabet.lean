import Poco.Text.Decimal

namespace Poco

/-- The classes in the order they are tried. -/
inductive CharClass where
  | symbol
  | number
  | identifier
  | whitespace
  | unrecognized
  deriving DecidableEq

def CharClass.name : CharClass → String
  | .symbol => "symbol"
  | .number => "number"
  | .identifier => "identifier"
  | .whitespace => "whitespace"
  | .unrecognized => "unrecognized"

namespace Alphabet

def quote : Char := '\x27'

def compoundOperators : List (List Char) :=
  [['>', '='], ['<', '='], ['!', '='], ['=', '='], ['-', '>']]

/-- Every symbol, the compound operators first. -/
def symbols : List (List Char) :=
  compoundOperators ++
    [['+'], ['-'], ['/'], ['*'], ['%'], ['='], ['>'], ['<'], ['!'], ['('], [')'],
      ['\x7b'], ['\x7d'], ['|'], [','], [quote], ['.']]

/-- Words that open a statement rather than name something. -/
def reservedWords : List String :=
  ["for", "while", "return", "if", "then", "else", "let"]

def isLetter (c : Char) : Bool :=
  (decide ('a' ≤ c) && decide (c ≤ 'z')) || (decide ('A' ≤ c) && decide (c ≤ 'Z'))

/-- Separators between tokens: the ASCII blanks, the space separators, the line
and paragraph separators and the byte order mark.  The next-line control U+0085
is not among them. -/
def isBlank (c : Char) : Bool :=
  match c with
  | '\t' | '\n' | '\x0b' | '\x0c' | '\r' | ' ' => true
  | '\u00a0' | '\u1680' | '\u2028' | '\u2029' | '\u202f' | '\u205f' | '\u3000' | '\ufeff' => true
  | c => decide ('\u2000' ≤ c) && decide (c ≤ '\u200a')

def isSymbol (text : List Char) : Bool :=
  symbols.contains text

def isNumber (text : List Char) : Bool :=
  !text.isEmpty && text.all Text.isDigit

def isIdentifier (text : List Char) : Bool :=
  !text.isEmpty && text.all isLetter

/-- The empty text counts as whitespace. -/
def isWhitespace (text : List Char) : Bool :=
  text.all isBlank

def isReservedWord (word : String) : Bool :=
  reservedWords.contains word

def isCompoundOperator (text : List Char) : Bool :=
  compoundOperators.contains text

end Alphabet

namespace CharClass

open Alphabet

def ofText (text : List Char) : CharClass :=
  if isSymbol text then .symbol
  else if isNumber text then .number
  else if isIdentifier text then .identifier
  else if isWhitespace text then .whitespace
  else .unrecognized

def of (c : Char) : CharClass :=
  ofText [c]

/-- The class of two neighbours read together; they merge when it is `symbol`. -/
def ofPair (first second : Char) : CharClass :=
  ofText [first, second]

end CharClass

end Poco
