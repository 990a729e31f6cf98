import Poco.Cli.Options
import Poco.Cli.Report
import Poco.Config
import Poco.Files.Reading
import Poco.Preferences.Environment

namespace Poco.Cli

open Poco.Files

/-- What the command learns from its surroundings. -/
structure World where
  environment : Environment
  config : String → Except ReadFailure ByteArray
  source : String → FileAnswer
  now : Timestamp := {}
  /-- How long reading the source took. -/
  elapsed : Duration := {}

structure Output where
  exitCode : UInt32 := 0
  standardOutput : String := ""
  standardError : String := ""

/-- What is tokenized when no file is given. -/
def sampleSource : String := "let name = 'Po Co'"

def sampleName : String := "<sample>"

def helpText (program : String) : String :=
  "Poco Lexer v0.1.0\n" ++
  "Tokenizes Poco source text and reports lexical diagnostics\n" ++
  "\n" ++
  "USAGE:\n" ++
  "    " ++ program ++ " [options]                  # Tokenize a built-in sample\n" ++
  "    " ++ program ++ " [options] <input.poco>     # Tokenize a file\n" ++
  "\n" ++
  "OPTIONS:\n" ++
  "    --help              Show this help message\n" ++
  "    --json              Print tokens and diagnostics as JSON\n" ++
  "    --halt              Stop at the first unrecognized character\n" ++
  "    --config <file>     Load runtime preferences from a TOML file\n" ++
  "\n" ++
  "ENVIRONMENT:\n" ++
  "    POCO_LEXICAL_RECOVERY_POLICY   resynchronize | halt\n" ++
  "    POCO_LOGGING_ENABLE_CONSOLE    true to print log events to stderr\n" ++
  "    POCO_LOGGING_MIN_LEVEL         error | warning | info | debug\n" ++
  "\n" ++
  "EXIT STATUS:\n" ++
  "    0 when no error diagnostics were recorded, 1 otherwise\n"

def usageText (program : String) (error : UsageError) : String :=
  "Error: " ++ error.message ++ "\nUsage: " ++ program ++ " [options] [input.poco]\n"

/-- An error that is logged before the log is set up, and ends the command. -/
def configFailure (error : ConfigError) : String :=
  "[ERROR] FALLBACK: [" ++ Code.configurationError ++ "] " ++ error.message ++ "\n" ++
    "Error: " ++ error.inspect ++ "\n"

/-- The error of a program whose log cannot be set up. -/
def loggingFailure (objection : String) : String :=
  "Error: " ++ Text.quoted ("Configuration validation failed: " ++ objection) ++ "\n"

/-- The preferences in force: those of the file or the defaults, and the policy
that the command line asks for. -/
def chosenPreferences (world : World) (options : Options) : Except ConfigError Preferences := do
  let default := world.environment.preferences
  let preferences ←
    match options.config with
    | none => .ok default
    | some path => default.load path (world.config path)
  if options.halt then
    .ok { preferences with
      lexical := { preferences.lexical with recoveryPolicy := .halt } }
  else
    .ok preferences

/-- The lines that a log shows on the console. -/
def consoleLog (preferences : LoggingPreferences) (now : Timestamp) (events : Array Event) :
    String :=
  if preferences.console then
    String.join (events.toList.filterMap fun event =>
      if event.level.passes preferences.least then
        let event := { event with time := now }
        some ((if preferences.structured then event.jsonText else event.text) ++ "\n")
      else
        none)
  else
    ""

/-- The name and the text to tokenize, with what is logged about reading it. -/
def chosenSource (limits : FileLimits) (world : World) (preferences : Preferences)
    (options : Options) : Outcome (String × String) :=
  match options.input with
  | none => .done (sampleName, sampleSource)
  | some path => do
      let file ←
        readSource limits preferences.files preferences.logging path (world.source path)
          world.elapsed
      return (path, file.source)

/-- The command after its options and preferences are known. -/
def perform (build : Build) (world : World) (options : Options) (preferences : Preferences) :
    Except Fault Output := do
  let started : Journal := { limits := build.log, preferences := preferences.logging }
  let started := started.logDetached
    (Entry.success Code.loggingInitialized "Global logging system initialized")
  let chosen := chosenSource build.files world preferences options
  let journal := started.logAll chosen.entries
  let console := consoleLog preferences.logging world.now
  match chosen.result with
  | .error error =>
      .ok
        { exitCode := 1
          standardError := console journal.events ++ "Error: " ++ error.inspect ++ "\n" }
  | .ok (name, source) =>
      let run ← tokenize preferences.lexical source
      let logging :=
        Logged.withSource name (run.log preferences.lexical preferences.logging source)
      let journal := (logging.run journal).2
      let exitCode := if run.hasErrors then 1 else 0
      if options.json then
        .ok
          { exitCode
            standardOutput := run.toJson.prettyText ++ "\n"
            standardError := console journal.events }
      else
        let diagnostics ← diagnosticReport source run.diagnostics
        .ok
          { exitCode
            standardOutput := tokenReport name run
            standardError := console journal.events ++ diagnostics }

def run (build : Build) (program : String) (world : World) (arguments : List String) :
    Except Fault Output :=
  match Options.parse arguments with
  | .error error => .ok { exitCode := 2, standardError := usageText program error }
  | .ok options =>
      if options.help then
        .ok { standardOutput := helpText program }
      else
        match chosenPreferences world options with
        | .error error => .ok { exitCode := 1, standardError := configFailure error }
        | .ok preferences =>
            match build.log.objection? with
            | some objection =>
                .ok { exitCode := 1, standardError := loggingFailure objection }
            | none => perform build world options preferences

end Poco.Cli
