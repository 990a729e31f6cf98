import Poco.Log.Code
import Poco.Text.Decimal
import Poco.Text.Quoted

namespace Poco.Files

inductive FileError where
  | fileNotFound (path : String)
  | invalidExtension (extension : Option String)
  | fileTooLarge (size limit : Nat)
  | tooManyLines (lines limit : Nat)
  | permissionDenied (path : String)
  | invalidEncoding (path : String) (validUpTo : Nat)
  | ioError (reason : String)
  | invalidPath (path : String)
  deriving DecidableEq

namespace FileError

def name : FileError → String
  | .fileNotFound _ => "FileNotFound"
  | .invalidExtension _ => "InvalidExtension"
  | .fileTooLarge .. => "FileTooLarge"
  | .tooManyLines .. => "TooManyLines"
  | .permissionDenied _ => "PermissionDenied"
  | .invalidEncoding .. => "InvalidEncoding"
  | .ioError _ => "IoError"
  | .invalidPath _ => "InvalidPath"

def code : FileError → String
  | .fileNotFound _ => Code.fileNotFound
  | .invalidExtension _ => Code.invalidExtension
  | .fileTooLarge .. => Code.fileTooLarge
  | .tooManyLines .. => Code.tooManyLines
  | .permissionDenied _ => Code.permissionDenied
  | .invalidEncoding .. => Code.invalidEncoding
  | .ioError _ => Code.ioError
  | .invalidPath _ => Code.invalidPath

def shownExtension : Option String → String
  | none => "None"
  | some extension => "Some(" ++ Text.quoted extension ++ ")"

def message : FileError → String
  | .fileNotFound path => "File not found: " ++ path
  | .invalidExtension extension =>
      "Invalid file extension: expected .poco, found " ++ shownExtension extension
  | .fileTooLarge size limit =>
      "File too large: " ++ Text.decimal size ++ " bytes (max: " ++ Text.decimal limit ++ ")"
  | .tooManyLines lines limit =>
      "File exceeds maximum line count: " ++ Text.decimal lines ++
        " (max: " ++ Text.decimal limit ++ ")"
  | .permissionDenied path => "Permission denied: " ++ path
  | .invalidEncoding path validUpTo =>
      "Invalid UTF-8 encoding in file " ++ path ++ " at byte " ++ Text.decimal validUpTo
  | .ioError reason => "I/O error reading file: " ++ reason
  | .invalidPath path => "Invalid file path: " ++ path

def details : FileError → List (String × String)
  | .fileNotFound path | .permissionDenied path | .invalidPath path =>
      [("path", Text.quoted path)]
  | .invalidExtension extension => [("extension", shownExtension extension)]
  | .fileTooLarge size limit =>
      [("size", Text.decimal size), ("max_size", Text.decimal limit)]
  | .tooManyLines lines limit =>
      [("lines", Text.decimal lines), ("max_lines", Text.decimal limit)]
  | .invalidEncoding path validUpTo =>
      [("path", Text.quoted path), ("valid_up_to", Text.decimal validUpTo)]
  | .ioError reason => [("message", Text.quoted reason)]

end FileError

/-- A name with named details in braces. -/
def inspected (name : String) (details : List (String × String)) : String :=
  name ++ " \x7b " ++
    ", ".intercalate (details.map fun detail => detail.1 ++ ": " ++ detail.2) ++ " \x7d"

def FileError.inspect (error : FileError) : String :=
  inspected error.name error.details

end Poco.Files
