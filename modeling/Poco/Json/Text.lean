import Poco.Json.Mark

namespace Poco.Json

mutual

/-- The marks that spell a value. -/
def marks : Json → List Mark
  | .scalar value => [.scalar value]
  | .array [] => [.beginArray, .endArray]
  | .array (first :: rest) => .beginArray :: (marks first ++ elementMarks rest)
  | .object [] => [.beginObject, .endObject]
  | .object ((name, first) :: rest) =>
      .beginObject :: .scalar (.string name) :: .colon :: (marks first ++ memberMarks rest)

/-- The marks of the elements after the first, with the closing bracket. -/
def elementMarks : List Json → List Mark
  | [] => [.endArray]
  | next :: rest => .comma :: (marks next ++ elementMarks rest)

def memberMarks : List (String × Json) → List Mark
  | [] => [.endObject]
  | (name, next) :: rest =>
      .comma :: .scalar (.string name) :: .colon :: (marks next ++ memberMarks rest)

end

def compact (json : Json) : String :=
  String.ofList ((marks json).flatMap Mark.spell)

def newLine (indent : Nat) : List Char :=
  '\n' :: List.replicate (2 * indent) ' '

mutual

/-- The spelling with one element or member a line, two blanks deeper than
what contains it. -/
def pretty (indent : Nat) : Json → List Char
  | .scalar value => value.spell
  | .array [] => ['[', ']']
  | .array (first :: rest) =>
      '[' :: (newLine (indent + 1) ++ pretty (indent + 1) first ++ prettyElements indent rest)
  | .object [] => ['\x7b', '\x7d']
  | .object ((name, first) :: rest) =>
      '\x7b' :: (newLine (indent + 1) ++ spellString name.toList ++ [':', ' '] ++
        pretty (indent + 1) first ++ prettyMembers indent rest)

def prettyElements (indent : Nat) : List Json → List Char
  | [] => newLine indent ++ [']']
  | next :: rest =>
      ',' :: (newLine (indent + 1) ++ pretty (indent + 1) next ++ prettyElements indent rest)

def prettyMembers (indent : Nat) : List (String × Json) → List Char
  | [] => newLine indent ++ ['\x7d']
  | (name, next) :: rest =>
      ',' :: (newLine (indent + 1) ++ spellString name.toList ++ [':', ' '] ++
        pretty (indent + 1) next ++ prettyMembers indent rest)

end

def prettyText (json : Json) : String :=
  String.ofList (pretty 0 json)

/-- A container that is still open, its contents so far last first. -/
inductive Frame where
  | array (elements : List Json)
  | object (members : List (String × Json)) (key : String)

/-- What may come next, inside the open containers. -/
inductive Reading where
  | value (frames : List Frame)
  | firstElement (frames : List Frame)
  | afterElement (elements : List Json) (frames : List Frame)
  | firstKey (frames : List Frame)
  | key (members : List (String × Json)) (frames : List Frame)
  | colon (members : List (String × Json)) (key : String) (frames : List Frame)
  | afterMember (members : List (String × Json)) (frames : List Frame)
  | finished (json : Json)

/-- Hand a complete value to the innermost open container. -/
def Reading.give (json : Json) : List Frame → Reading
  | [] => .finished json
  | .array elements :: frames => .afterElement (json :: elements) frames
  | .object members text :: frames => .afterMember ((text, json) :: members) frames

/-- A mark where a value must begin. -/
def Reading.enter (frames : List Frame) : Mark → Option Reading
  | .scalar leaf => some (.give (.scalar leaf) frames)
  | .beginArray => some (.firstElement frames)
  | .beginObject => some (.firstKey frames)
  | .endArray | .endObject | .comma | .colon => none

def Reading.step (reading : Reading) (mark : Mark) : Option Reading :=
  match reading, mark with
  | .value frames, mark => Reading.enter frames mark
  | .firstElement frames, .endArray => some (.give (.array []) frames)
  | .firstElement frames, mark => Reading.enter (.array [] :: frames) mark
  | .afterElement elements frames, .comma => some (.value (.array elements :: frames))
  | .afterElement elements frames, .endArray => some (.give (.array elements.reverse) frames)
  | .firstKey frames, .endObject => some (.give (.object []) frames)
  | .firstKey frames, .scalar (.string text) => some (.colon [] text frames)
  | .key members frames, .scalar (.string text) => some (.colon members text frames)
  | .colon members text frames, .colon => some (.value (.object members text :: frames))
  | .afterMember members frames, .comma => some (.key members frames)
  | .afterMember members frames, .endObject => some (.give (.object members.reverse) frames)
  | _, _ => none

/-- The value that a sequence of marks spells. -/
def ofMarks? (marks : List Mark) : Option Json :=
  match marks.foldlM Reading.step (.value []) with
  | some (.finished json) => some json
  | _ => none

def ofChars? (text : List Char) : Option Json :=
  (readMarks text).bind ofMarks?

def ofText? (text : String) : Option Json :=
  ofChars? text.toList

end Poco.Json
