import Poco.Toml.Scalar

namespace Poco.Toml

/-! How a table came to be decides who may still add to it: a header defines it once,
and dotted keys add only to tables that dotted keys made. -/

inductive Origin where
  /-- Named by a header of its own, or written in braces. -/
  | defined
  /-- Named only on the way to another header. -/
  | implied
  /-- Made by a dotted key. -/
  | dotted
  deriving DecidableEq

inductive Item where
  | value (value : Toml)
  | table (origin : Origin) (entries : List (String × Item))
  /-- The tables that repeated headers in double brackets define. -/
  | tables (elements : List (List (String × Item)))

abbrev Entries := List (String × Item)

def findItem (key : String) (entries : Entries) : Option Item :=
  (entries.find? (fun entry => entry.1 == key)).map (·.2)

def setItem (key : String) (item : Item) (entries : Entries) : Entries :=
  match entries with
  | [] => [(key, item)]
  | (other, old) :: rest =>
      if other = key then (key, item) :: rest else (other, old) :: setItem key item rest

def modifyLast (change : Entries → Option Entries) : List Entries → Option (List Entries)
  | [] => none
  | [last] => (change last).map ([·])
  | first :: rest => (modifyLast change rest).map (first :: ·)

def addNew (key : String) (item : Item) (entries : Entries) : Option Entries :=
  if (findItem key entries).isSome then none else some (setItem key item entries)

/-- Add a value behind dotted keys, in a table of the given origin. -/
def addDotted (origin : Origin) (path : List String) (key : String) (value : Toml)
    (entries : Entries) : Option Entries :=
  match path with
  | [] => if origin = .dotted then addNew key (.value value) entries else none
  | first :: rest =>
      match findItem first entries with
      | none =>
          (addDotted .dotted rest key value []).map fun sub =>
            setItem first (.table .dotted sub) entries
      | some (.table .defined _) => none
      | some (.table origin sub) =>
          (addDotted origin rest key value sub).map fun sub =>
            setItem first (.table origin sub) entries
      | some (.tables elements) =>
          (modifyLast (addDotted .defined rest key value) elements).map fun elements =>
            setItem first (.tables elements) entries
      | some (.value _) => none

/-- Add a value to a table that a header or braces opened. -/
def addValue (path : List String) (key : String) (value : Toml) (entries : Entries) :
    Option Entries :=
  match path with
  | [] => addNew key (.value value) entries
  | path => addDotted .defined path key value entries

/-- Change the table that a header's path leads to. -/
def modifyAt (path : List String) (change : Entries → Option Entries) (entries : Entries) :
    Option Entries :=
  match path with
  | [] => change entries
  | first :: rest =>
      match findItem first entries with
      | none =>
          (modifyAt rest change []).map fun sub => setItem first (.table .implied sub) entries
      | some (.table origin sub) =>
          (modifyAt rest change sub).map fun sub => setItem first (.table origin sub) entries
      | some (.tables elements) =>
          (modifyLast (modifyAt rest change) elements).map fun elements =>
            setItem first (.tables elements) entries
      | some (.value _) => none

def openTable (key : String) (entries : Entries) : Option Entries :=
  match findItem key entries with
  | none => some (setItem key (.table .defined []) entries)
  | some (.table .implied sub) => some (setItem key (.table .defined sub) entries)
  | some _ => none

def openElement (key : String) (entries : Entries) : Option Entries :=
  match findItem key entries with
  | none => some (setItem key (.tables [[]]) entries)
  | some (.tables elements) => some (setItem key (.tables (elements ++ [[]])) entries)
  | some _ => none

mutual

def Item.toToml : Item → Toml
  | .value value => value
  | .table _ entries => .table (entriesToToml entries)
  | .tables elements => .array (elementsToToml elements)

def entriesToToml : List (String × Item) → List (String × Toml)
  | [] => []
  | (key, item) :: rest => (key, item.toToml) :: entriesToToml rest

def elementsToToml : List (List (String × Item)) → List Toml
  | [] => []
  | entries :: rest => .table (entriesToToml entries) :: elementsToToml rest

end

/-! ## Keys -/

def isBareKeyChar (c : Char) : Bool :=
  c.isAlphanum || c == '_' || c == '-'

def readSimpleKey (text : List Char) : Option (String × List Char) :=
  match text with
  | '\x22' :: rest => readBasic #[] rest
  | '\x27' :: rest => readLiteral #[] rest
  | text =>
      match text.takeWhile isBareKeyChar with
      | [] => none
      | key => some (String.ofList key, text.dropWhile isBareKeyChar)

theorem readSimpleKey_length {text rest : List Char} {key : String}
    (found : readSimpleKey text = some (key, rest)) : rest.length ≤ text.length := by
  unfold readSimpleKey at found
  split at found
  · exact Nat.le_succ_of_le (readBasic_length found)
  · exact Nat.le_succ_of_le (readLiteral_length found)
  · split at found
    · contradiction
    · cases found
      exact (List.dropWhile_sublist isBareKeyChar).length_le

def readKeyParts (done : Array String) (text : List Char) : Option (List String × List Char) :=
  match _found : readSimpleKey (skipSpaces text) with
  | none => none
  | some (key, rest) =>
      match _dot : skipSpaces rest with
      | '.' :: more => readKeyParts (done.push key) more
      | rest => some ((done.push key).toList, rest)
termination_by text.length
decreasing_by
  have first := readSimpleKey_length _found
  have second := skipSpaces_length rest
  have third := skipSpaces_length text
  rw [_dot] at second
  simp only [List.length_cons] at second
  omega

/-- Keys nest fewer than this many tables. -/
def nestingLimit : Nat := 80

def readKey (text : List Char) : Option (List String × String × List Char) := do
  let (parts, rest) ← readKeyParts #[] text
  let last ← parts.getLast?
  if parts.length < nestingLimit then some (parts.dropLast, last, rest) else none

/-! ## Values -/

/-- The text behind a comment's characters. -/
def skipComment (text : List Char) : List Char :=
  match text with
  | '#' :: rest => rest.dropWhile isPlain
  | text => text

theorem skipComment_length (text : List Char) : (skipComment text).length ≤ text.length := by
  unfold skipComment
  split
  · exact Nat.le_succ_of_le (List.dropWhile_sublist isPlain).length_le
  · exact Nat.le_refl _

/-- The text behind blanks, comments and line breaks. -/
def skipGaps (text : List Char) : List Char :=
  match _line : newline? (skipComment (skipSpaces text)) with
  | none => skipComment (skipSpaces text)
  | some rest => skipGaps rest
termination_by text.length
decreasing_by
  have first := newline?_length _line
  have second := skipComment_length (skipSpaces text)
  have third := skipSpaces_length text
  omega

/-- The elements of an array behind those of `done`, up to its bracket.  There
are fewer of them than `limit`. -/
def readElements (item : List Char → Option (Toml × List Char)) (limit : Nat) (done : Array Toml)
    (text : List Char) : Option (Toml × List Char) :=
  match limit with
  | 0 => none
  | limit + 1 =>
      match skipGaps text with
      | ']' :: rest => some (.array done.toList, rest)
      | start =>
          match item start with
          | none => none
          | some (element, rest) =>
              match skipGaps rest with
              | ']' :: rest => some (.array (done.push element).toList, rest)
              | ',' :: rest => readElements item limit (done.push element) rest
              | _ => none

/-- The pairs of a table in braces behind those of `entries`, up to its brace.
There are no more of them than `limit`. -/
def readPairs (item : List Char → Option (Toml × List Char)) (limit : Nat) (entries : Entries)
    (text : List Char) : Option (Toml × List Char) :=
  match limit with
  | 0 => none
  | limit + 1 => do
      let (path, key, rest) ← readKey text
      let rest ← expect? ['='] rest
      let (value, rest) ← item (skipSpaces rest)
      let entries ← addValue path key value entries
      match skipSpaces rest with
      | '\x7d' :: rest => some (.table (entriesToToml entries), rest)
      | ',' :: rest => readPairs item limit entries rest
      | _ => none

/-- A value with room for `room` levels of brackets and braces, in a document of
`size` characters. -/
def readValue (size room : Nat) (text : List Char) : Option (Toml × List Char) :=
  match room, text with
  | room + 1, '[' :: rest => readElements (readValue size room) size #[] rest
  | room + 1, '\x7b' :: rest =>
      match skipSpaces rest with
      | '\x7d' :: rest => some (.table [], rest)
      | rest => readPairs (readValue size room) size [] rest
  | _, text => readScalar text

/-! ## Lines -/

/-- The text behind the end of a line: blanks, a comment and a line break. -/
def endLine? (text : List Char) : Option (List Char) :=
  match skipComment (skipSpaces text) with
  | [] => some []
  | rest => newline? rest

/-- A document as read so far, with the path of the header in force. -/
structure Draft where
  entries : Entries := []
  path : List String := []

/-- A key and its value, in the table in force. -/
def Draft.readPair (size : Nat) (draft : Draft) (text : List Char) :
    Option (Draft × List Char) := do
  let (path, key, rest) ← readKey text
  let rest ← expect? ['='] rest
  let (value, rest) ← readValue size (nestingLimit - 1) (skipSpaces rest)
  let rest ← endLine? rest
  let entries ← modifyAt draft.path (addValue path key value) draft.entries
  some ({ draft with entries }, rest)

/-- A header behind its opening brackets. -/
def Draft.readHeader (draft : Draft) (closing : List Char)
    (openAt : String → Entries → Option Entries) (text : List Char) :
    Option (Draft × List Char) := do
  let (path, key, rest) ← readKey text
  let rest ← expect? closing rest
  let rest ← endLine? rest
  let entries ← modifyAt path (openAt key) draft.entries
  some ({ entries, path := path ++ [key] }, rest)

def Draft.readLine (size : Nat) (draft : Draft) (text : List Char) : Option (Draft × List Char) :=
  match skipSpaces text with
  | '[' :: '[' :: rest => draft.readHeader [']', ']'] openElement rest
  | '[' :: rest => draft.readHeader [']'] openTable rest
  | '#' :: rest => (endLine? ('#' :: rest)).map fun rest => (draft, rest)
  | '\n' :: rest => some (draft, rest)
  | '\r' :: rest => (newline? ('\r' :: rest)).map fun rest => (draft, rest)
  | [] => some (draft, [])
  | rest => draft.readPair size rest

/-- Read lines to the end of the text.  There are no more of them than `limit`. -/
def Draft.readLines (size limit : Nat) (draft : Draft) (text : List Char) : Option Draft :=
  match limit, text with
  | _, [] => some draft
  | 0, _ => none
  | limit + 1, text =>
      match draft.readLine size text with
      | none => none
      | some (draft, rest) => draft.readLines size limit rest

/-- The root table of a document.  A byte order mark may come first. -/
def parse? (text : String) : Option Toml :=
  let text := text.toList
  let text := if text.head? = some '\ufeff' then text.tail else text
  let size := text.length
  (Draft.readLines size size {} text).map fun draft => .table (entriesToToml draft.entries)

end Poco.Toml
