import Poco.Build
import Poco.Dictionary
import Poco.Json.Text
import Poco.Log.Code
import Poco.Log.Timestamp
import Poco.Preferences
import Poco.Span

namespace Poco

/-- Cut a text to at most `limit` characters, three dots marking the cut. -/
def truncate (limit : Nat) (text : String) : String :=
  if text.length ≤ limit then
    text
  else
    String.ofList (text.toList.take (limit - 3)) ++ "..."

structure Event where
  time : Timestamp := {}
  level : Level
  code : String
  message : String
  span : Option Span := none
  context : Dictionary String := .empty

namespace Event

def make (limits : LogLimits) (level : Level) (code message : String) : Event :=
  { level, code, message := truncate limits.maxMessageLength message }

def withContext (event : Event) (limits : LogLimits) (key value : String) : Event :=
  { event with
    context := event.context.insert key (truncate limits.maxContextValueLength value) }

/-- The name of the source an event is about is kept in its context. -/
def sourceKey : String := "source"

def withSource (event : Event) (limits : LogLimits) (source : String) : Event :=
  event.withContext limits sourceKey source

def isError (event : Event) : Bool :=
  event.level == .error

def isInfo (event : Event) : Bool :=
  event.level == .info

def text (event : Event) : String :=
  let place :=
    match event.span with
    | none => ""
    | some span => " at " ++ span.start.describe
  "[" ++ event.level.label ++ "] " ++ event.code ++ " - " ++ event.message ++ place

def metadataJson (code : String) : Json :=
  .record (.ofList
    [("recoverable", .bool (Code.isRecoverable code)),
      ("requires_halt", .bool (Code.requiresHalt code)),
      ("description", .string (Code.description code)),
      ("recommended_action", .string (Code.action code))])

def spanJson (span : Span) : Json :=
  .record (.ofList
    [("start_line", .natural span.start.line.toNat),
      ("start_column", .natural span.start.column.toNat),
      ("end_line", .natural span.stop.line.toNat),
      ("end_column", .natural span.stop.column.toNat)])

def contextJson (context : Dictionary String) : Json :=
  .record (context.map Json.string)

/-- The members of every event, whatever else it has. -/
def commonMembers (event : Event) : List (String × Json) :=
  [("timestamp", .string event.time.text),
    ("level", .string event.level.label),
    ("code", .string event.code),
    ("message", .string event.message),
    ("category", .string (Code.category event.code)),
    ("severity", .string (Code.severity event.code).name)]

def metadataJson? (event : Event) : Option Json :=
  if event.isError then some (metadataJson event.code) else none

def contextJson? (event : Event) : Option Json :=
  if event.context.isEmpty then none else some (contextJson event.context)

/-- The event as a record: what every event has, then what it has on top. -/
def toJson? (event : Event) : Option Json := do
  let common := Json.record (.ofList event.commonMembers)
  let explained ← common.putAny? "error_metadata" event.metadataJson?
  let placed ← explained.putAny? "span" (event.span.map spanJson)
  placed.putAny? "context" event.contextJson?

/-- The record of the event on one line; its plain text if it makes no record. -/
def jsonText (event : Event) : String :=
  match event.toJson? with
  | none => event.text
  | some json => json.compact

end Event

/-- What a caller asks to be logged. -/
structure Entry where
  level : Level
  code : String
  message : String
  span : Option Span := none
  context : List (String × String) := []
  deriving DecidableEq

namespace Entry

def error (code message : String) (context : List (String × String) := [])
    (span : Option Span := none) : Entry :=
  { level := .error, code, message, span, context }

def warning (code message : String) (context : List (String × String) := []) : Entry :=
  { level := .warning, code, message, context }

/-- An informational entry under a code of its own. -/
def success (code message : String) (context : List (String × String) := []) : Entry :=
  { level := .info, code, message, context }

def info (message : String) (context : List (String × String) := []) : Entry :=
  { level := .info, code := Code.plainInfo, message, context }

def debug (message : String) (context : List (String × String) := []) : Entry :=
  { level := .debug, code := Code.plainDebug, message, context }

/-- A debug entry, made only for those who prefer to see such entries. -/
def debugFor (preferences : LoggingPreferences) (message : String)
    (context : List (String × String)) : List Entry :=
  if Level.debug.passes preferences.least then [debug message context] else []

/-- The event of an entry: its context pair by pair, then the source, if one is
named. -/
def event (entry : Entry) (limits : LogLimits) (source : Option String) : Event :=
  let bare := { Event.make limits entry.level entry.code entry.message with span := entry.span }
  let event :=
    entry.context.foldl (fun event pair => event.withContext limits pair.1 pair.2) bare
  match source with
  | none => event
  | some source => event.withSource limits source

end Entry

end Poco
