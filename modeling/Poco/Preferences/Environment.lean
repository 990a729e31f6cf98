import Poco.Preferences
import Poco.Text.Lowercase

namespace Poco

structure Environment where
  settings : List (String × String) := []

namespace Environment

def names : List String :=
  ["POCO_REQUIRE_POCO_EXTENSION", "POCO_ENABLE_PERFORMANCE_LOGGING",
    "POCO_LEXICAL_RECOVERY_POLICY", "POCO_LEXICAL_DETAILED_METRICS",
    "POCO_LEXICAL_TRACK_OPERATORS", "POCO_LEXICAL_MIRROR_DIAGNOSTICS",
    "POCO_LOGGING_USE_STRUCTURED", "POCO_LOGGING_ENABLE_CONSOLE",
    "POCO_LOGGING_MIN_LEVEL", "POCO_LOGGING_INCLUDE_SOURCE_CONTEXT"]

def find? (environment : Environment) (name : String) : Option String :=
  (environment.settings.find? (fun entry => entry.1 == name)).map (·.2)

def bool? (environment : Environment) (name : String) : Option Bool :=
  match environment.find? name with
  | some "true" => some true
  | some "false" => some false
  | _ => none

end Environment

/-- The policy that a word names, in any case. -/
def RecoveryPolicy.ofWord? (word : String) : Option RecoveryPolicy :=
  let small := Text.lowercase word
  if ["resynchronize", "resync", "continue"].contains small then some .resynchronize
  else if ["halt", "stop"].contains small then some .halt
  else none

/-- The level that a word or digit names, in any case. -/
def Level.ofWord? (word : String) : Option Level :=
  let small := Text.lowercase word
  if ["error", "0"].contains small then some .error
  else if ["warning", "warn", "1"].contains small then some .warning
  else if ["info", "2"].contains small then some .info
  else if ["debug", "3"].contains small then some .debug
  else none

namespace Environment

def filePreferences (environment : Environment) : FilePreferences :=
  let builtIn : FilePreferences := {}
  { requireExtension :=
      (environment.bool? "POCO_REQUIRE_POCO_EXTENSION").getD builtIn.requireExtension
    performanceLogging :=
      (environment.bool? "POCO_ENABLE_PERFORMANCE_LOGGING").getD builtIn.performanceLogging }

def lexicalPreferences (environment : Environment) : LexicalPreferences :=
  let builtIn : LexicalPreferences := {}
  { recoveryPolicy :=
      ((environment.find? "POCO_LEXICAL_RECOVERY_POLICY").bind RecoveryPolicy.ofWord?).getD
        builtIn.recoveryPolicy
    detailedMetrics :=
      (environment.bool? "POCO_LEXICAL_DETAILED_METRICS").getD builtIn.detailedMetrics
    trackOperators :=
      (environment.bool? "POCO_LEXICAL_TRACK_OPERATORS").getD builtIn.trackOperators
    mirrorDiagnostics :=
      (environment.bool? "POCO_LEXICAL_MIRROR_DIAGNOSTICS").getD builtIn.mirrorDiagnostics }

def loggingPreferences (environment : Environment) : LoggingPreferences :=
  let builtIn : LoggingPreferences := {}
  { structured := (environment.bool? "POCO_LOGGING_USE_STRUCTURED").getD builtIn.structured
    console := (environment.bool? "POCO_LOGGING_ENABLE_CONSOLE").getD builtIn.console
    least :=
      ((environment.find? "POCO_LOGGING_MIN_LEVEL").bind Level.ofWord?).getD builtIn.least
    includeSource :=
      (environment.bool? "POCO_LOGGING_INCLUDE_SOURCE_CONTEXT").getD builtIn.includeSource }

def preferences (environment : Environment) : Preferences :=
  { files := environment.filePreferences
    lexical := environment.lexicalPreferences
    logging := environment.loggingPreferences }

end Environment

end Poco
