import Poco.Json.Basic
import Poco.Text.Decimal
import Poco.Text.Quoted

namespace Poco.Json

inductive Mark where
  | beginArray
  | endArray
  | beginObject
  | endObject
  | comma
  | colon
  | scalar (value : Scalar)
  deriving DecidableEq

/-- A character inside a string: only quotes, backslashes and controls are
escaped. -/
def spellChar (c : Char) : List Char :=
  match c with
  | '\x22' => ['\\', '\x22']
  | '\\' => ['\\', '\\']
  | '\x08' => ['\\', 'b']
  | '\x0c' => ['\\', 'f']
  | '\n' => ['\\', 'n']
  | '\r' => ['\\', 'r']
  | '\t' => ['\\', 't']
  | c =>
      if c.toNat < 0x20 then
        ['\\', 'u', '0', '0', Text.hexDigit (c.toNat / 16), Text.hexDigit (c.toNat % 16)]
      else
        [c]

def spellString (text : List Char) : List Char :=
  '\x22' :: text.flatMap spellChar ++ ['\x22']

def spellInteger : Int → List Char
  | .ofNat n => Text.digits n
  | .negSucc n => '-' :: Text.digits (n + 1)

def Scalar.spell : Scalar → List Char
  | .null => ['n', 'u', 'l', 'l']
  | .bool true => ['t', 'r', 'u', 'e']
  | .bool false => ['f', 'a', 'l', 's', 'e']
  | .integer value => spellInteger value
  | .real numeral => numeral
  | .string value => spellString value.toList

def Mark.spell : Mark → List Char
  | .beginArray => ['[']
  | .endArray => [']']
  | .beginObject => ['\x7b']
  | .endObject => ['\x7d']
  | .comma => [',']
  | .colon => [':']
  | .scalar value => value.spell

def isSpace (c : Char) : Bool :=
  c == ' ' || c == '\n' || c == '\r' || c == '\t'

def hexValue? (c : Char) : Option Nat :=
  if '0' ≤ c ∧ c ≤ '9' then some (c.toNat - '0'.toNat)
  else if 'a' ≤ c ∧ c ≤ 'f' then some (c.toNat - 'a'.toNat + 10)
  else if 'A' ≤ c ∧ c ≤ 'F' then some (c.toNat - 'A'.toNat + 10)
  else none

/-- The code unit that four hexadecimal digits denote. -/
def codeUnit? (a b c d : Char) : Option Nat := do
  let a ← hexValue? a
  let b ← hexValue? b
  let c ← hexValue? c
  let d ← hexValue? d
  some (((a * 16 + b) * 16 + c) * 16 + d)

def shortEscape? : Char → Option Char
  | '\x22' => some '\x22'
  | '\\' => some '\\'
  | '/' => some '/'
  | 'b' => some '\x08'
  | 'f' => some '\x0c'
  | 'n' => some '\n'
  | 'r' => some '\r'
  | 't' => some '\t'
  | _ => none

/-- The rest of a string behind the characters of `done`, up to its closing
quote, and what follows the quote.  A code point above U+FFFF takes two
escapes, a leading and a trailing code unit; neither may stand alone. -/
def readString (done : Array Char) : List Char → Option (String × List Char)
  | [] => none
  | '\x22' :: rest => some (String.ofList done.toList, rest)
  | '\\' :: 'u' :: a :: b :: c :: d :: rest =>
      match codeUnit? a b c d with
      | none => none
      | some unit =>
          if unit < 0xd800 ∨ 0xe000 ≤ unit then
            readString (done.push (Char.ofNat unit)) rest
          else if unit < 0xdc00 then
            match rest with
            | '\\' :: 'u' :: e :: f :: g :: h :: rest =>
                match codeUnit? e f g h with
                | none => none
                | some trail =>
                    if 0xdc00 ≤ trail ∧ trail < 0xe000 then
                      let codePoint := 0x10000 + (unit - 0xd800) * 0x400 + (trail - 0xdc00)
                      readString (done.push (Char.ofNat codePoint)) rest
                    else
                      none
            | _ => none
          else
            none
  | '\\' :: c :: rest =>
      match shortEscape? c with
      | none => none
      | some c => readString (done.push c) rest
  | c :: rest =>
      if c = '\\' ∨ c.toNat < 0x20 then none else readString (done.push c) rest

/-- The characters that numerals and words are made of. -/
def isBare (c : Char) : Bool :=
  c.isAlphanum || c == '+' || c == '-' || c == '.'

def isWholeNumeral : List Char → Bool
  | [] => false
  | ['0'] => true
  | c :: rest => decide ('1' ≤ c) && decide (c ≤ '9') && rest.all Text.isDigit

/-- Whether `text` may follow the whole part: a fraction, an exponent, or both. -/
def isNumeralTail (text : List Char) : Bool :=
  let fraction := text.takeWhile (fun c => c != 'e' && c != 'E')
  let exponent := text.dropWhile (fun c => c != 'e' && c != 'E')
  let fractionFits :=
    match fraction with
    | [] => true
    | point :: places => point == '.' && !places.isEmpty && places.all Text.isDigit
  let exponentFits :=
    match exponent with
    | [] => true
    | _ :: '+' :: places | _ :: '-' :: places => !places.isEmpty && places.all Text.isDigit
    | _ :: places => !places.isEmpty && places.all Text.isDigit
  fractionFits && exponentFits

/-- A numeral without its sign. -/
def magnitude? (negative : Bool) (text : List Char) : Option Scalar :=
  let whole := text.takeWhile Text.isDigit
  let tail := text.dropWhile Text.isDigit
  let numeral := if negative then '-' :: text else text
  if isWholeNumeral whole && isNumeralTail tail then
    if tail.isEmpty && !(negative && whole == ['0']) then
      let value : Int := Text.digitsValue 0 whole
      some (.integer (if negative then -value else value))
    else
      some (.real numeral)
  else
    none

def bareScalar? (text : List Char) : Option Scalar :=
  match text with
  | ['n', 'u', 'l', 'l'] => some .null
  | ['t', 'r', 'u', 'e'] => some (.bool true)
  | ['f', 'a', 'l', 's', 'e'] => some (.bool false)
  | '-' :: rest => magnitude? true rest
  | text => magnitude? false text

/-- The mark that begins with `c`, and what follows it. -/
def readMark (c : Char) (rest : List Char) : Option (Mark × List Char) :=
  match c with
  | '[' => some (.beginArray, rest)
  | ']' => some (.endArray, rest)
  | '\x7b' => some (.beginObject, rest)
  | '\x7d' => some (.endObject, rest)
  | ',' => some (.comma, rest)
  | ':' => some (.colon, rest)
  | '\x22' => (readString #[] rest).map fun (text, rest) => (.scalar (.string text), rest)
  | c =>
      (bareScalar? (c :: rest.takeWhile isBare)).map fun scalar =>
        (.scalar scalar, rest.dropWhile isBare)

theorem readString_length {done : Array Char} {text : List Char} {value : String}
    {rest : List Char} (found : readString done text = some (value, rest)) :
    rest.length ≤ text.length := by
  fun_induction readString done text <;> simp_all <;> omega

theorem readMark_length {c : Char} {text rest : List Char} {mark : Mark}
    (found : readMark c text = some (mark, rest)) : rest.length ≤ text.length := by
  have dropped : (text.dropWhile isBare).length ≤ text.length :=
    (List.dropWhile_sublist isBare).length_le
  unfold readMark at found
  split at found <;> simp at found
  case h_7 =>
      obtain ⟨_, inner, _⟩ := found
      exact readString_length inner
  case h_8 =>
      obtain ⟨_, _, _, same⟩ := found
      exact same ▸ dropped
  all_goals exact Nat.le_of_eq (congrArg List.length found.2.symm)

/-- The marks of a text, after those in `done`. -/
def readMarksOnto (done : Array Mark) : List Char → Option (List Mark)
  | [] => some done.toList
  | c :: rest =>
      if isSpace c then
        readMarksOnto done rest
      else
        match _found : readMark c rest with
        | none => none
        | some (mark, rest) => readMarksOnto (done.push mark) rest
termination_by text => text.length
decreasing_by
  · simp
  · have shorter := readMark_length _found
    simp
    omega

def readMarks (text : List Char) : Option (List Mark) :=
  readMarksOnto #[] text

end Poco.Json
