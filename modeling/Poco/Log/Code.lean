namespace Poco

inductive Severity where
  | critical
  | high
  | medium
  | low
  deriving DecidableEq

def Severity.name : Severity → String
  | .critical => "Critical"
  | .high => "High"
  | .medium => "Medium"
  | .low => "Low"

namespace Code

def internalError : String := "ERR001"
def initializationFailure : String := "ERR002"
def configurationError : String := "ERR003"
def fileNotFound : String := "E005"
def invalidExtension : String := "E006"
def fileTooLarge : String := "E007"
def tooManyLines : String := "E008"
def permissionDenied : String := "E009"
def invalidEncoding : String := "E010"
def ioError : String := "E011"
def invalidPath : String := "E012"
def unrecognizedSyntax : String := "E020"
def unterminatedString : String := "E021"
def unexpectedToken : String := "E040"
def unexpectedEnd : String := "E041"
def largeFile : String := "W001"
def haltedOnDiagnostic : String := "W020"
def loggingInitialized : String := "I004"
def fileProcessed : String := "I006"
def tokenizationComplete : String := "I020"

/-- The codes of events that carry none of their own. -/
def plainWarning : String := "W000"
def plainInfo : String := "I000"
def plainDebug : String := "D000"

structure Metadata where
  code : String
  category : String
  severity : Severity
  recoverable : Bool
  requiresHalt : Bool
  description : String
  action : String

def registry : List Metadata :=
  [⟨internalError, "System", .critical, false, true,
    "Internal lexer error",
    "Report this issue with the input that triggered it"⟩,
   ⟨initializationFailure, "System", .critical, false, true,
    "Logging system initialization failed",
    "Check logging preferences and initialize logging only once"⟩,
   ⟨configurationError, "System", .high, false, true,
    "Runtime configuration could not be loaded",
    "Check the configuration file path and its TOML syntax"⟩,
   ⟨fileNotFound, "FileProcessing", .high, false, true,
    "Source file not found",
    "Verify the file path exists"⟩,
   ⟨invalidExtension, "FileProcessing", .medium, false, true,
    "Source file has an unexpected extension",
    "Rename the file to use the .poco extension"⟩,
   ⟨fileTooLarge, "FileProcessing", .high, false, true,
    "Source file exceeds the maximum allowed size",
    "Split the source into smaller files"⟩,
   ⟨tooManyLines, "FileProcessing", .high, false, true,
    "Source file exceeds the maximum allowed line count",
    "Split the source into smaller files"⟩,
   ⟨permissionDenied, "FileProcessing", .high, false, true,
    "Permission denied reading source file",
    "Check file permissions"⟩,
   ⟨invalidEncoding, "FileProcessing", .high, false, true,
    "Source file is not valid UTF-8",
    "Re-save the file with UTF-8 encoding"⟩,
   ⟨ioError, "FileProcessing", .high, false, true,
    "I/O error while reading source file",
    "Check disk health and retry"⟩,
   ⟨invalidPath, "FileProcessing", .medium, false, true,
    "Path does not refer to a regular file",
    "Pass a path to a source file, not a directory"⟩,
   ⟨unrecognizedSyntax, "Lexical", .medium, true, false,
    "Character is not part of the Poco alphabet",
    "Remove the character or place it inside a string literal"⟩,
   ⟨unterminatedString, "Lexical", .high, true, false,
    "Input ended before a string literal was closed",
    "Add the closing double quote"⟩,
   ⟨unexpectedToken, "TokenStream", .medium, true, false,
    "Token did not match what the consumer expected",
    "Check the token sequence near the reported position"⟩,
   ⟨unexpectedEnd, "TokenStream", .medium, true, false,
    "Token stream ended while more tokens were expected",
    "Check for truncated input"⟩,
   ⟨largeFile, "FileProcessing", .low, true, false,
    "Source file is larger than the large-file threshold",
    "No action required"⟩,
   ⟨haltedOnDiagnostic, "Lexical", .low, true, false,
    "Tokenization stopped at the first fatal diagnostic",
    "Fix the reported diagnostic or use the resynchronize policy"⟩,
   ⟨loggingInitialized, "System", .low, true, false,
    "Logging system initialized",
    "Continue processing"⟩,
   ⟨fileProcessed, "FileProcessing", .low, true, false,
    "Source file read successfully",
    "Continue to tokenization"⟩,
   ⟨tokenizationComplete, "Lexical", .low, true, false,
    "Tokenization completed",
    "Hand the token sequence to the parser"⟩]

def metadata? (code : String) : Option Metadata :=
  registry.find? (fun metadata => metadata.code == code)

def severity (code : String) : Severity :=
  ((metadata? code).map (·.severity)).getD .medium

def isRecoverable (code : String) : Bool :=
  ((metadata? code).map (·.recoverable)).getD true

def requiresHalt (code : String) : Bool :=
  ((metadata? code).map (·.requiresHalt)).getD false

def description (code : String) : String :=
  ((metadata? code).map (·.description)).getD "Unknown error"

def action (code : String) : String :=
  ((metadata? code).map (·.action)).getD "No specific action available"

def category (code : String) : String :=
  ((metadata? code).map (·.category)).getD "Unknown"

end Code

end Poco
