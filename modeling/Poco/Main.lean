import Poco.Cli.Command
import Std.Time.DateTime.Timestamp

namespace Poco.Cli

def programName : String := "poco-lex"

def readEnvironment : IO Environment := do
  let settings ← Environment.names.filterMapM fun name => do
    return (← IO.getEnv name).map fun value => (name, value)
  return { settings }

def readConfig (path : String) : IO (Except ReadFailure ByteArray) := do
  try
    return .ok (← IO.FS.readBinFile path)
  catch error =>
    match error with
    | .noFileOrDirectory .. => return .error .missing
    | .inappropriateType _ 21 _ => return .error .isDirectory
    | .inappropriateType .. => return .error .notDirectory
    | .invalidArgument _ 22 _ => return .error .badName
    | .invalidArgument .. => return .error .nameTooLong
    | error => throw error

def readSourceFile (path : String) : IO Files.FileAnswer := do
  let found ←
    try
      let fullPath ← IO.FS.realPath path
      let metadata ← fullPath.metadata
      pure (some (fullPath, metadata.type))
    catch _ =>
      pure none
  match found with
  | none => return .missing
  | some (fullPath, .file) => return .regular fullPath.toString (← IO.FS.readBinFile fullPath)
  | some _ => return .notRegular

def readClock : IO Timestamp := do
  let now ← Std.Time.Timestamp.now
  return { seconds := now.val.second.val, nanoseconds := now.val.nano.val.toNat }

def observe (options : Options) : IO World := do
  let environment ← readEnvironment
  let config ←
    match options.config with
    | none => pure (.error .missing)
    | some path => readConfig path
  let before ← IO.monoNanosNow
  let source ←
    match options.input with
    | none => pure .missing
    | some path => readSourceFile path
  let after ← IO.monoNanosNow
  return {
    environment
    config := fun _ => config
    source := fun _ => source
    now := ← readClock
    elapsed := { nanoseconds := after - before } }

end Poco.Cli

open Poco.Cli

def main (arguments : List String) : IO UInt32 := do
  let options := (Options.parse arguments).toOption.getD {}
  let world ← observe options
  match run .development programName world arguments with
  | .error fault => throw (IO.userError fault.message)
  | .ok output =>
      (← IO.getStdout).putStr output.standardOutput
      (← IO.getStderr).putStr output.standardError
      return output.exitCode
