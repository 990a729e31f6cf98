namespace Poco

/-- What happens at a character outside the alphabet. -/
inductive RecoveryPolicy where
  /-- Drop the character and go on. -/
  | resynchronize
  /-- Stop there and keep only what precedes it. -/
  | halt
  deriving DecidableEq

def RecoveryPolicy.name : RecoveryPolicy → String
  | .resynchronize => "resynchronize"
  | .halt => "halt"

def RecoveryPolicy.all : List RecoveryPolicy :=
  [.resynchronize, .halt]

/-- Severity of a logged event, the most severe first. -/
inductive Level where
  | error
  | warning
  | info
  | debug
  deriving DecidableEq

namespace Level

def all : List Level :=
  [.error, .warning, .info, .debug]

def name : Level → String
  | .error => "error"
  | .warning => "warning"
  | .info => "info"
  | .debug => "debug"

def label : Level → String
  | .error => "ERROR"
  | .warning => "WARN"
  | .info => "INFO"
  | .debug => "DEBUG"

def rank : Level → Nat
  | .error => 0
  | .warning => 1
  | .info => 2
  | .debug => 3

/-- Whether a log kept down to `least` keeps an event of this level. -/
def passes (level least : Level) : Bool :=
  decide (level.rank ≤ least.rank)

end Level

structure LexicalPreferences where
  recoveryPolicy : RecoveryPolicy := .resynchronize
  detailedMetrics : Bool := true
  trackOperators : Bool := false
  mirrorDiagnostics : Bool := true
  deriving DecidableEq

structure FilePreferences where
  requireExtension : Bool := false
  performanceLogging : Bool := true
  deriving DecidableEq

structure LoggingPreferences where
  structured : Bool := false
  console : Bool := false
  least : Level := .info
  includeSource : Bool := true
  deriving DecidableEq

structure Preferences where
  files : FilePreferences := {}
  lexical : LexicalPreferences := {}
  logging : LoggingPreferences := {}
  deriving DecidableEq

end Poco
