import Poco.Text.Decimal

namespace Poco

/-! Limits are fixed when the program is built and no preference changes them.
The records carry what a build checks of them, so there are no limits that a
build would refuse. -/

structure FileLimits where
  maxFileSize : Nat
  /-- Files above this size are read with a warning. -/
  largeFileThreshold : Nat
  maxLineCount : Nat
  sizeBounded : maxFileSize ≤ 1000000000 := by decide
  thresholdWithin : largeFileThreshold ≤ maxFileSize := by decide
  linesPositive : 0 < maxLineCount := by decide

structure LogLimits where
  maxMessageLength : Nat
  maxContextValueLength : Nat
  messageRoom : 32 ≤ maxMessageLength := by decide
  valuePositive : 0 < maxContextValueLength := by decide

/-- Why no log is set up under the limits, if something speaks against it. -/
def LogLimits.objection? (limits : LogLimits) : Option String :=
  if limits.maxMessageLength < limits.maxContextValueLength then
    some ("Context value limit " ++ Text.decimal limits.maxContextValueLength ++
      " exceeds message limit " ++ Text.decimal limits.maxMessageLength)
  else
    none

structure Build where
  profile : String
  /-- Where the profiles are kept. -/
  directory : String := "config"
  files : FileLimits
  log : LogLimits
  modest : profile = "production" → files.maxFileSize ≤ 50000000 := by decide

namespace Build

def origin (build : Build) : String :=
  "Generated from " ++ build.directory ++ "/" ++ build.profile ++ ".toml"

def development : Build where
  profile := "development"
  files := { maxFileSize := 10485760, largeFileThreshold := 1048576, maxLineCount := 100000 }
  log := { maxMessageLength := 4096, maxContextValueLength := 256 }

def production : Build where
  profile := "production"
  files := { maxFileSize := 5242880, largeFileThreshold := 524288, maxLineCount := 50000 }
  log := { maxMessageLength := 1024, maxContextValueLength := 128 }

end Build

end Poco
