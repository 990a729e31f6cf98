import Poco.Log.Code
import Poco.Position

namespace Poco

/-- The conditions that the lexer itself reports. -/
inductive DiagnosticKind where
  | unrecognizedSyntax
  | unterminatedString
  deriving DecidableEq

namespace DiagnosticKind

def all : List DiagnosticKind :=
  [.unrecognizedSyntax, .unterminatedString]

def message : DiagnosticKind → String
  | .unrecognizedSyntax => "UNRECOGNIZED SYNTAX"
  | .unterminatedString => "EOF WHILE PARSING STRING"

def name : DiagnosticKind → String
  | .unrecognizedSyntax => "UNRECOGNIZED_SYNTAX"
  | .unterminatedString => "EOF_WHILE_PARSING_STRING"

def code : DiagnosticKind → String
  | .unrecognizedSyntax => Code.unrecognizedSyntax
  | .unterminatedString => Code.unterminatedString

end DiagnosticKind

inductive DiagnosticSeverity where
  | log
  | error
  deriving DecidableEq

def DiagnosticSeverity.name : DiagnosticSeverity → String
  | .log => "log"
  | .error => "error"

/-- One recorded entry.  Only the lexer's own entries have a kind. -/
structure Diagnostic where
  severity : DiagnosticSeverity
  message : String
  line : UInt32
  column : UInt32
  kind : Option DiagnosticKind := none
  deriving DecidableEq

namespace Diagnostic

def ofKind (kind : DiagnosticKind) (line column : UInt32) : Diagnostic :=
  { severity := .error, message := kind.message, line, column, kind := some kind }

def error (message : String) (line column : UInt32) : Diagnostic :=
  { severity := .error, message, line, column }

def log (message : String) (line column : UInt32) : Diagnostic :=
  { severity := .log, message, line, column }

def isError (diagnostic : Diagnostic) : Bool :=
  diagnostic.severity == .error

def code? (diagnostic : Diagnostic) : Option String :=
  diagnostic.kind.map (·.code)

def describe (diagnostic : Diagnostic) : String :=
  diagnostic.message ++ " -- line: " ++ Text.decimal diagnostic.line.toNat ++
    ", column: " ++ Text.decimal diagnostic.column.toNat

end Diagnostic

/-- A lexical failure, before it is recorded. -/
inductive LexicalError where
  | unrecognizedSyntax (character : Char) (line column : UInt32)
  | unterminatedString (line column : UInt32)
  deriving DecidableEq

namespace LexicalError

def kind : LexicalError → DiagnosticKind
  | .unrecognizedSyntax .. => .unrecognizedSyntax
  | .unterminatedString .. => .unterminatedString

def line : LexicalError → UInt32
  | .unrecognizedSyntax _ line _ => line
  | .unterminatedString line _ => line

def column : LexicalError → UInt32
  | .unrecognizedSyntax _ _ column => column
  | .unterminatedString _ column => column

def code (error : LexicalError) : String :=
  error.kind.code

def message (error : LexicalError) : String :=
  let place := "line " ++ Text.decimal error.line.toNat ++
    ", column " ++ Text.decimal error.column.toNat
  match error with
  | .unrecognizedSyntax character _ _ =>
      "Unrecognized character '" ++ String.singleton character ++ "' at " ++ place
  | .unterminatedString _ _ =>
      "String starting at " ++ place ++ " is not terminated"

def diagnostic (error : LexicalError) : Diagnostic :=
  .ofKind error.kind error.line error.column

end LexicalError

/-- Whatever diagnostics can be appended to, oldest first. -/
class Recorder (σ : Type) where
  append : σ → Diagnostic → σ
  entries : σ → List Diagnostic
  entries_append (record : σ) (diagnostic : Diagnostic) :
    entries (append record diagnostic) = entries record ++ [diagnostic]

namespace Recorder

variable {σ : Type} [Recorder σ]

def appendAll (record : σ) (diagnostics : List Diagnostic) : σ :=
  diagnostics.foldl append record

@[simp] theorem entries_appendAll (record : σ) (diagnostics : List Diagnostic) :
    entries (appendAll record diagnostics) = entries record ++ diagnostics := by
  induction diagnostics generalizing record with
  | nil => simp [appendAll]
  | cons first rest ih =>
      have next := ih (append record first)
      simpa [appendAll, entries_append] using next

end Recorder

instance : Recorder (Array Diagnostic) where
  append := Array.push
  entries := Array.toList
  entries_append := fun _ _ => Array.toList_push

/-- A record of diagnostics that knows about errors. -/
structure Findings where
  entries : Array Diagnostic := #[]

namespace Findings

def append (findings : Findings) (diagnostic : Diagnostic) : Findings :=
  { entries := findings.entries.push diagnostic }

def toList (findings : Findings) : List Diagnostic :=
  findings.entries.toList

def isEmpty (findings : Findings) : Bool :=
  findings.entries.isEmpty

def hasErrors (findings : Findings) : Bool :=
  findings.entries.any (·.isError)

def errorCount (findings : Findings) : Nat :=
  (findings.entries.filter (·.isError)).size

@[simp] theorem toList_append (findings : Findings) (diagnostic : Diagnostic) :
    (findings.append diagnostic).toList = findings.toList ++ [diagnostic] := by
  simp [append, toList]

instance : Recorder Findings where
  append := append
  entries := toList
  entries_append := toList_append

end Findings

end Poco
