import Poco.Config
import Poco.Files.Reading

namespace Poco.Files

inductive Node where
  | file (bytes : ByteArray)
  | directory (entries : List (String × Node))

/-- Why a path leads nowhere. -/
inductive LookupError where
  | missing
  | notDirectory
  | nameTooLong
  | badName
  deriving DecidableEq

namespace Node

def child? (name : String) (entries : List (String × Node)) : Option Node :=
  (entries.find? (fun entry => entry.1 == name)).map (·.2)

def setChild (name : String) (node : Node) (entries : List (String × Node)) :
    List (String × Node) :=
  match entries with
  | [] => [(name, node)]
  | (other, old) :: rest =>
      if other = name then (name, node) :: rest else (other, old) :: setChild name node rest

/-- Put `leaf` at a place, with the directories on the way to it.  A directory
that is there already stays. -/
def insert (leaf : Node) (names : List String) (node : Node) : Node :=
  match names with
  | [] =>
      match leaf, node with
      | .directory [], .directory entries => .directory entries
      | leaf, _ => leaf
  | name :: rest =>
      let entries :=
        match node with
        | .directory entries => entries
        | .file _ => []
      .directory
        (setChild name (insert leaf rest ((child? name entries).getD (.directory []))) entries)

end Node

/-- A place in the tree: its node under its name, then the directories above. -/
structure Place where
  name : String
  node : Node
  above : List (String × Node)

namespace Place

def path (place : Place) : String :=
  String.join ((((place.name, place.node) :: place.above).reverse.drop 1).map ("/" ++ ·.1))

/-- The place that one part of a path leads to. -/
def enter (part : List Char) (place : Place) : Except LookupError Place :=
  match place.node with
  | .file _ => .error .notDirectory
  | .directory entries =>
      let name := String.ofList part
      if part.isEmpty ∨ part = ['.'] then
        .ok place
      else if part = ['.', '.'] then
        match place.above with
        | [] => .ok place
        | (name, node) :: above => .ok { name, node, above }
      else if 255 < name.utf8ByteSize then
        .error .nameTooLong
      else
        match Node.child? name entries with
        | none => .error .missing
        | some node => .ok { name, node, above := (place.name, place.node) :: place.above }

end Place

structure Tree where
  root : Node
  /-- Where relative paths begin, from the root. -/
  workingDirectory : List String

namespace Tree

/-- The names from the root at which the parts of a path begin. -/
def start (tree : Tree) (path : String) : List String :=
  if path.toList.head? = some '/' then [] else tree.workingDirectory

/-- Put `leaf` where the parts of a path lead from the directory `here`.  Every
directory on the way is made, one that two dots leave again as well. -/
def insertAlong (leaf : Node) (here : List String) (parts : List (List Char)) (root : Node) :
    Node :=
  match parts with
  | [] => Node.insert leaf here root
  | part :: rest =>
      if part.isEmpty ∨ part = ['.'] then
        insertAlong leaf here rest root
      else if part = ['.', '.'] then
        insertAlong leaf here.dropLast rest (Node.insert (.directory []) here root)
      else
        insertAlong leaf (here ++ [String.ofList part]) rest root

def insert (tree : Tree) (path : String) (leaf : Node) : Tree :=
  let parts := splitSlashes path.toList
  { tree with root := insertAlong leaf (tree.start path) parts tree.root }

/-- Follow a path.  Every part but the last, and anything a slash follows, has to be a
directory.  No path has 4096 bytes or more, or a NUL character. -/
def lookup (tree : Tree) (path : String) : Except LookupError Place := do
  if path.isEmpty then
    .error .missing
  else if path.toList.contains '\x00' then
    .error .badName
  else if 4096 ≤ path.utf8ByteSize then
    .error .nameTooLong
  else
    let root : Place := { name := "", node := tree.root, above := [] }
    let parts := (tree.start path).map String.toList ++ splitSlashes path.toList
    parts.foldlM (fun place part => place.enter part) root

def source (tree : Tree) (path : String) : FileAnswer :=
  match tree.lookup path with
  | .error _ => .missing
  | .ok place =>
      match place.node with
      | .directory _ => .notRegular
      | .file bytes => .regular place.path bytes

def config (tree : Tree) (path : String) : Except ReadFailure ByteArray :=
  match tree.lookup path with
  | .error .missing => .error .missing
  | .error .notDirectory => .error .notDirectory
  | .error .nameTooLong => .error .nameTooLong
  | .error .badName => .error .badName
  | .ok place =>
      match place.node with
      | .directory _ => .error .isDirectory
      | .file bytes => .ok bytes

end Tree

end Poco.Files
