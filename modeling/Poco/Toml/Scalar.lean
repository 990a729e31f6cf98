import Poco.Json.Mark

namespace Poco

/-- A number with a fraction or exponent and a date or time are kept as they
were written. -/
inductive Toml where
  | string (text : String)
  | integer (number : Int)
  | float (numeral : List Char)
  | boolean (truth : Bool)
  | moment (written : List Char)
  | array (elements : List Toml)
  | table (members : List (String × Toml))

namespace Toml

def isSpace (c : Char) : Bool :=
  c == ' ' || c == '\t'

def skipSpaces (text : List Char) : List Char :=
  text.dropWhile isSpace

def newline? : List Char → Option (List Char)
  | '\n' :: rest => some rest
  | '\r' :: '\n' :: rest => some rest
  | _ => none

/-- Characters that may stand in comments and in strings as they are: no
control but the tab. -/
def isPlain (c : Char) : Bool :=
  c == '\t' || (decide (' ' ≤ c) && c != '\x7f')

def expect? (expected text : List Char) : Option (List Char) :=
  if expected.isPrefixOf text then some (text.drop expected.length) else none

/-! ## Strings -/

def hexNumber? (numeral : List Char) : Option Nat :=
  numeral.foldlM (fun value c => (Json.hexValue? c).map (value * 16 + ·)) 0

/-- The character with a code point, which has to be one of a character. -/
def scalarChar? (codePoint : Nat) : Option Char :=
  if codePoint.isValidChar then some (Char.ofNat codePoint) else none

/-- The character behind a backslash. -/
def readEscape (text : List Char) : Option (Char × List Char) :=
  match text with
  | 'b' :: rest => some ('\x08', rest)
  | 't' :: rest => some ('\t', rest)
  | 'n' :: rest => some ('\n', rest)
  | 'f' :: rest => some ('\x0c', rest)
  | 'r' :: rest => some ('\r', rest)
  | '\x22' :: rest => some ('\x22', rest)
  | '\\' :: rest => some ('\\', rest)
  | 'u' :: rest => readCodePoint 4 rest
  | 'U' :: rest => readCodePoint 8 rest
  | _ => none
where
  readCodePoint (width : Nat) (text : List Char) : Option (Char × List Char) :=
    if width ≤ text.length then do
      let codePoint ← hexNumber? (text.take width)
      let c ← scalarChar? codePoint
      some (c, text.drop width)
    else
      none

theorem readEscape_length {text rest : List Char} {c : Char}
    (found : readEscape text = some (c, rest)) : rest.length ≤ text.length := by
  have codePoints : ∀ {width : Nat} {text rest : List Char} {c : Char},
      readEscape.readCodePoint width text = some (c, rest) → rest.length ≤ text.length := by
    intro width text rest c found
    unfold readEscape.readCodePoint at found
    split at found
    · simp only [Option.bind_eq_bind, Option.bind_eq_some_iff, Option.some.injEq,
        Prod.mk.injEq] at found
      obtain ⟨_, _, _, _, _, same⟩ := found
      simp [← same]
    · contradiction
  unfold readEscape at found
  split at found
  case h_8 => exact Nat.le_succ_of_le (codePoints found)
  case h_9 => exact Nat.le_succ_of_le (codePoints found)
  case h_10 => contradiction
  all_goals
    simp only [Option.some.injEq, Prod.mk.injEq] at found
    simp [← found.2]

/-- A basic string behind its opening quote. -/
def readBasic (done : Array Char) (text : List Char) : Option (String × List Char) :=
  match text with
  | [] => none
  | '\x22' :: rest => some (String.ofList done.toList, rest)
  | '\\' :: rest =>
      match _found : readEscape rest with
      | none => none
      | some (c, rest) => readBasic (done.push c) rest
  | c :: rest => if isPlain c then readBasic (done.push c) rest else none
termination_by text.length
decreasing_by
  · have shorter := readEscape_length _found
    simp
    omega
  · simp

theorem readBasic_length {done : Array Char} {text rest : List Char} {value : String}
    (found : readBasic done text = some (value, rest)) : rest.length ≤ text.length := by
  fun_induction readBasic done text with
  | case1 => contradiction
  | case2 done rest =>
      cases found
      exact Nat.le_succ _
  | case3 => contradiction
  | case4 done behind c next escape ih =>
      have shorter := readEscape_length escape
      have further := ih found
      simp only [List.length_cons]
      omega
  | case5 done c rest _ _ plain ih => exact Nat.le_succ_of_le (ih found)
  | case6 => contradiction

/-- A literal string behind its opening apostrophe. -/
def readLiteral (done : Array Char) : List Char → Option (String × List Char)
  | [] => none
  | '\x27' :: rest => some (String.ofList done.toList, rest)
  | c :: rest => if isPlain c then readLiteral (done.push c) rest else none

theorem readLiteral_length {done : Array Char} {text rest : List Char} {value : String}
    (found : readLiteral done text = some (value, rest)) : rest.length ≤ text.length := by
  fun_induction readLiteral done text with
  | case1 => contradiction
  | case2 done rest =>
      cases found
      exact Nat.le_succ _
  | case3 done c rest _ plain ih => exact Nat.le_succ_of_le (ih found)
  | case4 => contradiction

/-- The quotes of a run of `count` that belong to a multi-line string, and
whether the run closes it: three quotes close, and two more may come before. -/
def closingQuotes (count : Nat) : Option (Nat × Bool) :=
  if count < 3 then some (count, false)
  else if count ≤ 5 then some (count - 3, true)
  else none

def isBreakable (c : Char) : Bool :=
  isSpace c || c == '\n'

/-- The text behind a line break that a backslash hides, with every blank and
line break that follows it. -/
def hiddenBreak? (text : List Char) : Option (List Char) :=
  (newline? (skipSpaces text)).map skipBreaks
where
  skipBreaks (text : List Char) : List Char :=
    match text with
    | '\r' :: '\n' :: rest => skipBreaks rest
    | c :: rest => if isBreakable c then skipBreaks rest else c :: rest
    | [] => []

theorem skipBreaks_length (text : List Char) :
    (hiddenBreak?.skipBreaks text).length ≤ text.length := by
  fun_induction hiddenBreak?.skipBreaks text <;> simp <;> omega

theorem newline?_length {text rest : List Char} (found : newline? text = some rest) :
    rest.length < text.length := by
  unfold newline? at found
  split at found
  · cases found
    exact Nat.lt_succ_self _
  · cases found
    exact Nat.lt_succ_of_lt (Nat.lt_succ_self _)
  · contradiction

theorem skipSpaces_length (text : List Char) : (skipSpaces text).length ≤ text.length :=
  (List.dropWhile_sublist isSpace).length_le

theorem hiddenBreak?_length {text rest : List Char} (found : hiddenBreak? text = some rest) :
    rest.length ≤ text.length := by
  simp only [hiddenBreak?, Option.map_eq_some_iff] at found
  obtain ⟨after, line, same⟩ := found
  have first := newline?_length line
  have second := skipBreaks_length after
  have spaces := skipSpaces_length text
  rw [same] at second
  omega

/-- A multi-line string between runs of `quote`, behind the opening run.  Only
between double quotes does a backslash escape. -/
def readMultiline (quote : Char) (done : Array Char) (text : List Char) :
    Option (String × List Char) :=
  match text with
  | [] => none
  | c :: rest =>
      if c = quote then
        let count := 1 + (rest.takeWhile (· == quote)).length
        let after := rest.dropWhile (· == quote)
        match closingQuotes count with
        | none => none
        | some (kept, closes) =>
            let done := done ++ List.replicate kept quote
            if closes then
              some (String.ofList done.toList, after)
            else
              readMultiline quote done after
      else if c = '\\' ∧ quote = '\x22' then
        match _hidden : hiddenBreak? rest with
        | some rest => readMultiline quote done rest
        | none =>
            match _found : readEscape rest with
            | none => none
            | some (c, rest) => readMultiline quote (done.push c) rest
      else if isPlain c then
        readMultiline quote (done.push c) rest
      else
        match _line : newline? (c :: rest) with
        | none => none
        | some rest => readMultiline quote (done.push '\n') rest
termination_by text.length
decreasing_by
  · have shorter := (List.dropWhile_sublist (l := rest) (· == quote)).length_le
    simp
    omega
  · have shorter := hiddenBreak?_length _hidden
    simp
    omega
  · have shorter := readEscape_length _found
    simp
    omega
  · simp
  · have shorter := newline?_length _line
    simpa using shorter

/-- The text behind the line break that may follow the opening quotes. -/
def dropFirstBreak (text : List Char) : List Char :=
  (newline? text).getD text

def readQuoted (text : List Char) : Option (String × List Char) :=
  match text with
  | '\x22' :: '\x22' :: '\x22' :: rest => readMultiline '\x22' #[] (dropFirstBreak rest)
  | '\x27' :: '\x27' :: '\x27' :: rest => readMultiline '\x27' #[] (dropFirstBreak rest)
  | '\x22' :: rest => readBasic #[] rest
  | '\x27' :: rest => readLiteral #[] rest
  | _ => none

/-! ## Numbers -/

/-- The longest run of digits with single underscores between them. -/
def readDigits (isDigit : Char → Bool) (done : Array Char) (text : List Char) :
    List Char × List Char :=
  match text with
  | [] => (done.toList, [])
  | '_' :: c :: rest =>
      if isDigit c && !done.isEmpty then
        readDigits isDigit (done.push c) rest
      else
        (done.toList, '_' :: c :: rest)
  | c :: rest =>
      if isDigit c then
        readDigits isDigit (done.push c) rest
      else
        (done.toList, c :: rest)

def readNumeral (isDigit : Char → Bool) (text : List Char) : Option (List Char × List Char) :=
  match readDigits isDigit #[] text with
  | ([], _) => none
  | (numeral, rest) => some (numeral, rest)

/-- A whole part without needless zeros. -/
def readWhole (text : List Char) : Option (List Char × List Char) :=
  match text with
  | '0' :: rest => some (['0'], rest)
  | text => readNumeral Text.isDigit text

def readSign : List Char → Bool × List Char
  | '-' :: rest => (true, rest)
  | '+' :: rest => (false, rest)
  | text => (false, text)

def word? (number : Int) : Option Toml :=
  let bound := UInt64.size / 2
  if -bound ≤ number ∧ number < bound then some (.integer number) else none

def radixValue (radix : Nat) (numeral : List Char) : Nat :=
  numeral.foldl (fun value c => value * radix + (Json.hexValue? c).getD 0) 0

def readRadix (radix : Nat) (text : List Char) : Option (Toml × List Char) := do
  let isDigit := fun c => ((Json.hexValue? c).map (fun digit => decide (digit < radix))).getD false
  let (numeral, rest) ← readNumeral isDigit text
  let number ← word? (radixValue radix numeral)
  some (number, rest)

def readInteger (text : List Char) : Option (Toml × List Char) :=
  match text with
  | '0' :: 'x' :: rest => readRadix 16 rest
  | '0' :: 'o' :: rest => readRadix 8 rest
  | '0' :: 'b' :: rest => readRadix 2 rest
  | text => do
      let (negative, text) := readSign text
      let (numeral, rest) ← readWhole text
      let magnitude : Int := Text.digitsValue 0 numeral
      let number ← word? (if negative then -magnitude else magnitude)
      some (number, rest)

/-- The exponent of a number, written behind a letter `e`. -/
def readExponent (text : List Char) : Option (Int × List Char) :=
  match text with
  | 'e' :: rest | 'E' :: rest => do
      let (negative, rest) := readSign rest
      let (numeral, rest) ← readNumeral Text.isDigit rest
      let magnitude : Int := Text.digitsValue 0 numeral
      some (if negative then -magnitude else magnitude, rest)
  | _ => none

/-- Whether `coefficient` times ten to the `exponent` rounds to a finite double:
it lies below 2^1024 - 2^970. -/
def isFinite (coefficient : List Char) (exponent : Int) : Bool :=
  let significant := coefficient.dropWhile (· == '0')
  let order := exponent + significant.length
  if significant.isEmpty ∨ order ≤ 300 then
    true
  else if 400 ≤ order then
    false
  else
    let value := Text.digitsValue 0 significant
    let limit := Nat.pow 2 1024 - Nat.pow 2 970
    match exponent with
    | .ofNat power => decide (value * Nat.pow 10 power < limit)
    | .negSucc power => decide (value < limit * Nat.pow 10 (power + 1))

/-- A number with a fraction, an exponent or both.  One too large to be finite
is refused, though not below zero. -/
def readFraction (text : List Char) : Option (Toml × List Char) := do
  let (negative, unsigned) := readSign text
  let (whole, rest) ← readWhole unsigned
  let (places, exponent, rest) ←
    match rest with
    | '.' :: rest => do
        let (places, rest) ← readNumeral Text.isDigit rest
        match readExponent rest with
        | some (exponent, rest) => some (places, exponent, rest)
        | none => some (places, 0, rest)
    | rest => do
        let (exponent, rest) ← readExponent rest
        some ([], exponent, rest)
  if negative ∨ isFinite (whole ++ places) (exponent - places.length) then
    some (.float (text.take (text.length - rest.length)), rest)
  else
    none

/-- The infinities and the undefined number, with or without a sign. -/
def readSpecial (text : List Char) : Option (Toml × List Char) := do
  let (_, unsigned) := readSign text
  let rest ← (expect? ['i', 'n', 'f'] unsigned).or (expect? ['n', 'a', 'n'] unsigned)
  some (.float (text.take (text.length - rest.length)), rest)

/-! ## Dates and times -/

/-- A number of exactly `width` digits within bounds. -/
def readField (width least most : Nat) (text : List Char) : Option (Nat × List Char) :=
  let numeral := text.take width
  let value := Text.digitsValue 0 numeral
  if numeral.length = width ∧ numeral.all Text.isDigit ∧ least ≤ value ∧ value ≤ most then
    some (value, text.drop width)
  else
    none

def daysInMonth (year month : Nat) : Nat :=
  if month = 2 then
    if year % 4 = 0 ∧ (year % 100 ≠ 0 ∨ year % 400 = 0) then 29 else 28
  else if month = 4 ∨ month = 6 ∨ month = 9 ∨ month = 11 then 30
  else 31

def readDate (text : List Char) : Option (List Char) := do
  let (year, rest) ← readField 4 0 9999 text
  let rest ← expect? ['-'] rest
  let (month, rest) ← readField 2 1 12 rest
  let rest ← expect? ['-'] rest
  let (_, rest) ← readField 2 1 (daysInMonth year month) rest
  some rest

def readTime (text : List Char) : Option (List Char) := do
  let (_, rest) ← readField 2 0 23 text
  let rest ← expect? [':'] rest
  let (_, rest) ← readField 2 0 59 rest
  let rest ← expect? [':'] rest
  let (_, rest) ← readField 2 0 60 rest
  match rest with
  | '.' :: places =>
      let after := places.dropWhile Text.isDigit
      if after.length < places.length then some after else none
  | rest => some rest

def readOffset (text : List Char) : Option (List Char) :=
  match text with
  | 'Z' :: rest | 'z' :: rest => some rest
  | '+' :: rest | '-' :: rest => do
      let (_, rest) ← readField 2 0 23 rest
      let rest ← expect? [':'] rest
      let (_, rest) ← readField 2 0 59 rest
      some rest
  | text => some text

/-- A date, a time, or both with an optional offset. -/
def readMoment (text : List Char) : Option (Toml × List Char) := do
  let rest ←
    match readDate text with
    | some rest =>
        match rest with
        | 'T' :: time | 't' :: time | ' ' :: time =>
            match readTime time with
            | some rest => readOffset rest
            | none => some rest
        | rest => some rest
    | none => readTime text
  some (.moment (text.take (text.length - rest.length)), rest)

def readScalar (text : List Char) : Option (Toml × List Char) :=
  match text with
  | [] => none
  | c :: _ =>
      if c = '\x22' ∨ c = '\x27' then
        (readQuoted text).map fun (text, rest) => (.string text, rest)
      else if c = '+' ∨ c = '-' ∨ Text.isDigit c then
        ((readMoment text).or (readFraction text)).or ((readSpecial text).or (readInteger text))
      else
        ((expect? ['t', 'r', 'u', 'e'] text).map (fun rest => (.boolean true, rest))).or
          (((expect? ['f', 'a', 'l', 's', 'e'] text).map (fun rest => (.boolean false, rest))).or
            (readSpecial text))

end Toml

end Poco
