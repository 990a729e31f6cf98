namespace Poco.Cli

structure Options where
  input : Option String := none
  config : Option String := none
  json : Bool := false
  halt : Bool := false
  help : Bool := false
  deriving DecidableEq

inductive UsageError where
  | missingConfigPath
  | unknownOption (argument : String)
  | secondInput
  deriving DecidableEq

def UsageError.message : UsageError → String
  | .missingConfigPath => "--config requires a file path"
  | .unknownOption argument => "Unknown option '" ++ argument ++ "'"
  | .secondInput => "Only one input file may be given"

namespace Options

def looksLikeOption (argument : String) : Bool :=
  ['-', '-'].isPrefixOf argument.toList

def extend (options : Options) : List String → Except UsageError Options
  | [] => .ok options
  | argument :: rest =>
      if argument = "--help" ∨ argument = "-h" then
        extend { options with help := true } rest
      else if argument = "--json" then
        extend { options with json := true } rest
      else if argument = "--halt" then
        extend { options with halt := true } rest
      else if argument = "--config" then
        match rest with
        | [] => .error .missingConfigPath
        | path :: rest => extend { options with config := some path } rest
      else if looksLikeOption argument then
        .error (.unknownOption argument)
      else if options.input.isSome then
        .error .secondInput
      else
        extend { options with input := some argument } rest

def parse (arguments : List String) : Except UsageError Options :=
  extend {} arguments

end Options

end Poco.Cli
