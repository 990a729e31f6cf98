import Poco.Dictionary

namespace Poco

/-- A value that contains no other. -/
inductive Json.Scalar where
  | null
  | bool (value : Bool)
  | integer (value : Int)
  | real (numeral : List Char)
  | string (value : String)
  deriving DecidableEq

inductive Json where
  | scalar (value : Json.Scalar)
  | array (elements : List Json)
  | object (members : List (String × Json))

namespace Json

@[match_pattern] def null : Json :=
  .scalar .null

@[match_pattern] def bool (value : Bool) : Json :=
  .scalar (.bool value)

@[match_pattern] def integer (value : Int) : Json :=
  .scalar (.integer value)

@[match_pattern] def string (value : String) : Json :=
  .scalar (.string value)

def natural (value : Nat) : Json :=
  .integer value

def optional {α : Type} (encode : α → Json) : Option α → Json
  | none => .null
  | some value => encode value

def list {α : Type} (encode : α → Json) (values : List α) : Json :=
  .array (values.map encode)

/-- The member under a name; the last one when a name is repeated. -/
def member? (json : Json) (name : String) : Option Json :=
  match json with
  | .object members => (members.reverse.find? (fun entry => entry.1 == name)).map (·.2)
  | .scalar _ | .array _ => none

/-- A record has its members in the order of their names, each name once. -/
def record (members : Dictionary Json) : Json :=
  .object members.entries

/-- Put a member into a value, in place of one with the same name.  Only a
record has room for it; null becomes one. -/
def put? (json : Json) (name : String) (value : Json) : Option Json :=
  match json with
  | .object members => some (.object (Dictionary.alterEntries name (fun _ => value) members))
  | .null => some (record (Dictionary.empty.insert name value))
  | .scalar _ | .array _ => none

/-- Put a member that may be missing. -/
def putAny? (json : Json) (name : String) (value? : Option Json) : Option Json :=
  match value? with
  | none => some json
  | some value => json.put? name value

end Json

end Poco
