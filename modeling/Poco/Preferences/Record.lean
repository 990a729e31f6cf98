import Poco.Json.Basic
import Poco.Preferences
import Poco.Toml.Scalar

namespace Poco

/-! A record gives its fields by name, or in order as a list.  Fields left out keep
their defaults and unknown ones are ignored. -/

/-- How a data format writes records, truth values and names of choices. -/
structure RecordFormat (α : Type) where
  fields? : List String → α → Option (List (Option α))
  bool? : α → Option Bool
  choice? : α → Option String

/-- The fields of a record written as a list. -/
def positionalFields {α : Type} (names : List String) (values : List α) : List (Option α) :=
  names.zipIdx.map fun entry => values[entry.2]?

/-- The fields of a record with named members. -/
def namedFields {α : Type} (names : List String) (find? : String → Option α) :
    List (Option α) :=
  names.map find?

namespace Json

/-- A record in JSON: a list may not have more items than there are fields. -/
def fields? (names : List String) (json : Json) : Option (List (Option Json)) :=
  match json with
  | .scalar _ => none
  | .array elements =>
      if elements.length ≤ names.length then some (positionalFields names elements) else none
  | .object members => some (namedFields names (Json.object members).member?)

def bool? : Json → Option Bool
  | .bool truth => some truth
  | _ => none

/-- The name of a choice, alone or as the only member of an object with nothing
in it. -/
def choice? : Json → Option String
  | .string name => some name
  | .object [(name, .null)] => some name
  | _ => none

def recordFormat : RecordFormat Json :=
  { fields?, bool?, choice? }

end Json

namespace Toml

def findMember? (members : List (String × Toml)) (name : String) : Option Toml :=
  (members.find? (fun entry => entry.1 == name)).map (·.2)

/-- A record in TOML: further items of a list are ignored, and a date has none
of the fields. -/
def fields? (names : List String) (toml : Toml) : Option (List (Option Toml)) :=
  match toml with
  | .table members => some (namedFields names (findMember? members))
  | .array elements => some (positionalFields names elements)
  | .moment _ => some (namedFields names (findMember? []))
  | .string _ | .integer _ | .float _ | .boolean _ => none

def bool? : Toml → Option Bool
  | .boolean truth => some truth
  | _ => none

def isEmpty : Toml → Bool
  | .table [] | .array [] => true
  | _ => false

/-- The name of a choice, alone or as the only key of a table, over an empty
table or array. -/
def choice? : Toml → Option String
  | .string name => some name
  | .table [(name, value)] => if value.isEmpty then some name else none
  | _ => none

def recordFormat : RecordFormat Toml :=
  { fields?, bool?, choice? }

end Toml

def readField {α β : Type} (read? : α → Option β) (default : β) : Option α → Option β
  | none => some default
  | some value => read? value

def RecoveryPolicy.ofName? (name : String) : Option RecoveryPolicy :=
  all.find? (fun policy => policy.name == name)

def Level.ofName? (name : String) : Option Level :=
  all.find? (fun level => level.name == name)

variable {α : Type}

def FilePreferences.read? (format : RecordFormat α) (default : FilePreferences) (record : α) :
    Option FilePreferences := do
  match ← format.fields? ["require_poco_extension", "enable_performance_logging"] record with
  | [extension, performance] =>
      let requireExtension ← readField format.bool? default.requireExtension extension
      let performanceLogging ← readField format.bool? default.performanceLogging performance
      some { requireExtension, performanceLogging }
  | _ => none

def LexicalPreferences.read? (format : RecordFormat α) (default : LexicalPreferences)
    (record : α) : Option LexicalPreferences := do
  let names := ["recovery_policy", "collect_detailed_metrics", "track_operator_patterns",
    "mirror_diagnostics_to_log"]
  match ← format.fields? names record with
  | [policy, detailed, track, mirror] =>
      let policy? := fun value => (format.choice? value).bind RecoveryPolicy.ofName?
      let recoveryPolicy ← readField policy? default.recoveryPolicy policy
      let detailedMetrics ← readField format.bool? default.detailedMetrics detailed
      let trackOperators ← readField format.bool? default.trackOperators track
      let mirrorDiagnostics ← readField format.bool? default.mirrorDiagnostics mirror
      some { recoveryPolicy, detailedMetrics, trackOperators, mirrorDiagnostics }
  | _ => none

def LoggingPreferences.read? (format : RecordFormat α) (default : LoggingPreferences)
    (record : α) : Option LoggingPreferences := do
  let names := ["use_structured_logging", "enable_console_logging", "min_log_level",
    "include_source_context"]
  match ← format.fields? names record with
  | [structured, console, least, source] =>
      let level? := fun value => (format.choice? value).bind Level.ofName?
      let structured ← readField format.bool? default.structured structured
      let console ← readField format.bool? default.console console
      let least ← readField level? default.least least
      let includeSource ← readField format.bool? default.includeSource source
      some { structured, console, least, includeSource }
  | _ => none

def Preferences.read? (format : RecordFormat α) (default : Preferences) (record : α) :
    Option Preferences := do
  match ← format.fields? ["file_processor", "lexical", "logging"] record with
  | [files, lexical, logging] =>
      let files ← readField (FilePreferences.read? format default.files) default.files files
      let lexical ←
        readField (LexicalPreferences.read? format default.lexical) default.lexical lexical
      let logging ←
        readField (LoggingPreferences.read? format default.logging) default.logging logging
      some { files, lexical, logging }
  | _ => none

def FilePreferences.toJson (preferences : FilePreferences) : Json :=
  .object
    [("require_poco_extension", .bool preferences.requireExtension),
      ("enable_performance_logging", .bool preferences.performanceLogging)]

def LexicalPreferences.toJson (preferences : LexicalPreferences) : Json :=
  .object
    [("recovery_policy", .string preferences.recoveryPolicy.name),
      ("collect_detailed_metrics", .bool preferences.detailedMetrics),
      ("track_operator_patterns", .bool preferences.trackOperators),
      ("mirror_diagnostics_to_log", .bool preferences.mirrorDiagnostics)]

def LoggingPreferences.toJson (preferences : LoggingPreferences) : Json :=
  .object
    [("use_structured_logging", .bool preferences.structured),
      ("enable_console_logging", .bool preferences.console),
      ("min_log_level", .string preferences.least.name),
      ("include_source_context", .bool preferences.includeSource)]

end Poco
