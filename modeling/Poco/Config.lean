import Poco.Preferences.Record
import Poco.Text.Quoted
import Poco.Toml.Document

namespace Poco

/-- Why a configuration file could not be read. -/
inductive ReadFailure where
  | missing
  | notDirectory
  | isDirectory
  | nameTooLong
  | badName
  | notText
  deriving DecidableEq

def ReadFailure.reason : ReadFailure → String
  | .missing => "No such file or directory (os error 2)"
  | .notDirectory => "Not a directory (os error 20)"
  | .isDirectory => "Is a directory (os error 21)"
  | .nameTooLong => "File name too long (os error 36)"
  | .badName => "file name contained an unexpected NUL byte"
  | .notText => "stream did not contain valid UTF-8"

inductive ConfigError where
  | unreadable (path : String) (failure : ReadFailure)
  | invalid
  deriving DecidableEq

namespace ConfigError

def message : ConfigError → String
  | .unreadable path failure =>
      "Failed to read configuration file " ++ path ++ ": " ++ failure.reason
  | .invalid => "Invalid TOML configuration"

/-- The error with its details, as it ends a program. -/
def inspect : ConfigError → String
  | .unreadable path failure =>
      "Read \x7b path: " ++ Text.quoted path ++ ", message: " ++ Text.quoted failure.reason ++
        " \x7d"
  | .invalid => "Parse"

end ConfigError

namespace Preferences

def ofToml (default : Preferences) (document : String) : Except ConfigError Preferences :=
  match (Toml.parse? document).bind (read? Toml.recordFormat default) with
  | some preferences => .ok preferences
  | none => .error .invalid

/-- The preferences in a file, of which the file system has given the bytes. -/
def load (default : Preferences) (path : String) (answer : Except ReadFailure ByteArray) :
    Except ConfigError Preferences :=
  match answer with
  | .error failure => .error (.unreadable path failure)
  | .ok bytes =>
      match String.fromUTF8? bytes with
      | none => .error (.unreadable path .notText)
      | some document => ofToml default document

end Preferences

end Poco
