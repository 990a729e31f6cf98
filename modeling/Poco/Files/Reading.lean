import Poco.Files.Error
import Poco.Text.Fixed
import Poco.Text.Lowercase
import Poco.Tokenizer

namespace Poco

/-- The property White_Space of Unicode.  The next-line control U+0085 has it, the
byte order mark U+FEFF does not. -/
def Text.isWhiteSpace (c : Char) : Bool :=
  match c with
  | '\t' | '\n' | '\x0b' | '\x0c' | '\r' | ' ' => true
  | '\u0085' | '\u00a0' | '\u1680' | '\u2028' | '\u2029' | '\u202f' | '\u205f' | '\u3000' => true
  | c => decide ('\u2000' ≤ c) && decide (c ≤ '\u200a')

/-- Whether nothing is left of a text once its outer white space is cut off. -/
def Text.isBlankText (text : List Char) : Bool :=
  text.all isWhiteSpace

namespace Files

def sourceExtension : String := "poco"

def splitSlashes (path : List Char) : List (List Char) :=
  path.splitOn '/'

/-- The parts of a path that name something, dots at the front included. -/
def components (path : List Char) : List (List Char) :=
  match splitSlashes path with
  | ['.'] :: rest => ['.'] :: named rest
  | parts => named parts
where
  named (parts : List (List Char)) : List (List Char) :=
    parts.filter fun part => !part.isEmpty && part != ['.']

/-- The name a path ends in, unless it ends in dots or at the root. -/
def fileName? (path : String) : Option String :=
  match (components path.toList).getLast? with
  | none | some ['.'] | some ['.', '.'] => none
  | some name => some (String.ofList name)

/-- The part of a file name behind its last dot, unless nothing precedes it. -/
def extensionOf (name : String) : Option String :=
  let reversed := name.toList.reverse
  match reversed.dropWhile (· != '.') with
  | [] | [_] => none
  | _ => some (String.ofList (reversed.takeWhile (· != '.')).reverse)

/-- What a file system knows about a path. -/
inductive FileAnswer where
  | missing
  | notRegular
  /-- A file with its full path. -/
  | regular (fullPath : String) (bytes : ByteArray)

structure Duration where
  nanoseconds : Nat := 0

namespace Duration

def milliseconds (duration : Duration) : Float :=
  let seconds := (UInt64.ofNat (duration.nanoseconds / 1000000000)).toFloat
  let fraction := (UInt64.ofNat (duration.nanoseconds % 1000000000)).toFloat
  (seconds + fraction / 1000000000.0) * 1000.0

/-- How many of `count` things fall to a millisecond, if any time passed. -/
def rate (duration : Duration) (count : Nat) : Float :=
  let milliseconds := duration.milliseconds
  if 0.0 < milliseconds then (UInt64.ofNat count).toFloat / milliseconds else 0.0

end Duration

/-- A size in the largest unit that leaves at least one of it. -/
def scaledSize (size : Float) (name : String) : List String → String
  | [] => Text.fixed 2 size ++ " " ++ name
  | larger :: rest =>
      if 1024.0 ≤ size then
        scaledSize (size / 1024.0) larger rest
      else
        Text.fixed 2 size ++ " " ++ name

def humanSize (bytes : Nat) : String :=
  if bytes < 1024 then
    Text.decimal bytes ++ " B"
  else
    scaledSize ((UInt64.ofNat bytes).toFloat / 1024.0) "KB" ["MB", "GB"]

/-- The number of lines: pieces that a newline ends, and a last one without if
it is not empty. -/
def lineCount (text : List Char) : Nat :=
  match text.getLast? with
  | none => 0
  | some last => text.count '\n' + if last = '\n' then 0 else 1

structure FileMetadata where
  /-- The full path. -/
  path : String
  size : Nat
  /-- In lower case. -/
  extension : Option String
  lines : Nat := 0

namespace FileMetadata

def isSourceFile (metadata : FileMetadata) : Bool :=
  metadata.extension == some sourceExtension

def isLarge (limits : FileLimits) (metadata : FileMetadata) : Bool :=
  decide (limits.largeFileThreshold < metadata.size)

def humanSize (metadata : FileMetadata) : String :=
  Files.humanSize metadata.size

/-- The last part of the path, or all of it when it ends in no name. -/
def displayName (metadata : FileMetadata) : String :=
  (fileName? metadata.path).getD metadata.path

def ofFile (fullPath : String) (bytes : ByteArray) : FileMetadata :=
  { path := fullPath
    size := bytes.size
    extension := ((fileName? fullPath).bind extensionOf).map Text.lowercase }

end FileMetadata

structure SourceFile where
  source : String
  metadata : FileMetadata
  elapsed : Duration := {}

namespace SourceFile

def isBlank (file : SourceFile) : Bool :=
  Text.isBlankText file.source.toList

def rate (file : SourceFile) : Float :=
  file.elapsed.rate file.source.length

/-- Log a run over a file that was read, under the file's name. -/
def logRun (preferences : LexicalPreferences) (logging : LoggingPreferences) (file : SourceFile)
    (run : Run) : Logged Unit :=
  Logged.withSource file.metadata.displayName (run.log preferences logging file.source)

end SourceFile

/-- The number of bytes before the first that no character in UTF-8 takes in,
from a place between characters on. -/
def validUpTo (bytes : ByteArray) (start : Nat) : Nat :=
  if start < bytes.size then
    match bytes.utf8DecodeChar? start with
    | none => start
    | some c => validUpTo bytes (start + c.utf8Size)
  else
    start
termination_by bytes.size - start
decreasing_by
  have positive := c.utf8Size_pos
  omega

/-- An outcome together with what is logged on the way to it. -/
structure Outcome (α : Type) where
  result : Except FileError α
  entries : List Entry

namespace Outcome

def done {α : Type} (value : α) (entries : List Entry := []) : Outcome α :=
  { result := .ok value, entries }

/-- Fail, and log the failure under the error's code. -/
def fail {α : Type} (error : FileError) (message : String)
    (context : List (String × String) := []) : Outcome α :=
  { result := .error error, entries := [Entry.error error.code message context] }

/-- Go on after a success; a failure ends everything. -/
def bind {α β : Type} (first : Outcome α) (next : α → Outcome β) : Outcome β :=
  match first.result with
  | .error error => { result := .error error, entries := first.entries }
  | .ok value =>
      let second := next value
      { result := second.result, entries := first.entries ++ second.entries }

instance : Monad Outcome where
  pure value := done value
  bind := bind

def log (entries : List Entry) : Outcome Unit :=
  done () entries

end Outcome

def findFile (path : String) (answer : FileAnswer) : Outcome (String × ByteArray) :=
  if path.isEmpty then
    .fail (.invalidPath path) "Empty file path provided"
  else
    match answer with
    | .missing => .fail (.fileNotFound path) "File not found" [("path", path)]
    | .notRegular => .fail (.invalidPath path) "Path is not a file" [("path", path)]
    | .regular fullPath bytes => .done (fullPath, bytes)

section

variable (limits : FileLimits) (preferences : FilePreferences) (path : String)

def checkMetadata (metadata : FileMetadata) : Outcome Unit :=
  if limits.maxFileSize < metadata.size then
    .fail (.fileTooLarge metadata.size limits.maxFileSize)
      "File exceeds compile-time maximum size limit"
      [("file", path), ("size_human", metadata.humanSize),
        ("limit_human", humanSize limits.maxFileSize)]
  else if preferences.requireExtension && !metadata.isSourceFile then
    .fail (.invalidExtension metadata.extension) "File does not have required .poco extension"
      [("file", path), ("extension", metadata.extension.getD "none")]
  else if metadata.isLarge limits then
    .log
      [Entry.warning Code.largeFile "Large source file"
        [("file", path), ("size_human", metadata.humanSize),
          ("threshold_bytes", Text.decimal limits.largeFileThreshold)]]
  else
    .done ()

/-- The text that the bytes of a file spell in UTF-8. -/
def decodeSource (bytes : ByteArray) : Outcome String :=
  match String.fromUTF8? bytes with
  | some source => .done source
  | none =>
      let valid := validUpTo bytes 0
      .fail (.invalidEncoding path valid) "Invalid UTF-8 encoding in file"
        [("file", path), ("valid_up_to", Text.decimal valid)]

def checkLines (lines : Nat) : Outcome Unit :=
  if limits.maxLineCount < lines then
    .fail (.tooManyLines lines limits.maxLineCount) "File exceeds maximum line count"
      [("file", path), ("lines", Text.decimal lines),
        ("max_lines", Text.decimal limits.maxLineCount)]
  else
    .done ()

def successEntry (file : SourceFile) : Entry :=
  let metadata := file.metadata
  let size := ("size_bytes", Text.decimal metadata.size)
  let lines := ("lines", Text.decimal metadata.lines)
  let duration := ("duration_ms", Text.fixed 2 file.elapsed.milliseconds)
  if preferences.performanceLogging then
    Entry.success Code.fileProcessed "File processed successfully with performance metrics"
      [("file", path), size, ("size_human", metadata.humanSize), lines,
        ("chars", Text.decimal file.source.length), duration,
        ("chars_per_ms", Text.fixed 2 file.rate),
        ("is_large_file", if metadata.isLarge limits then "true" else "false")]
  else
    Entry.success Code.fileProcessed "File processed successfully"
      [("file", path), size, lines, duration]

end

def readSource (limits : FileLimits) (preferences : FilePreferences)
    (logging : LoggingPreferences) (path : String) (answer : FileAnswer) (elapsed : Duration) :
    Outcome SourceFile := do
  .log (Entry.debugFor logging "Starting file processing" [("file", path)])
  let (fullPath, bytes) ← findFile path answer
  let metadata := FileMetadata.ofFile fullPath bytes
  .log
    (Entry.debugFor logging "File metadata collected"
      [("size_bytes", Text.decimal metadata.size), ("size_human", metadata.humanSize),
        ("extension", metadata.extension.getD "none"),
        ("is_poco", if metadata.isSourceFile then "true" else "false")])
  checkMetadata limits preferences path metadata
  let source ← decodeSource path bytes
  let lines := lineCount source.toList
  checkLines limits path lines
  let file : SourceFile := { source, metadata := { metadata with lines }, elapsed }
  .log [successEntry limits preferences path file]
  return file

end Files

end Poco
