import RouteQuote.Amount

namespace RouteQuote.CommandLine

inductive Command where
  | serve (bind : Option String)
  | swapQuote (chain : ChainId) (tokenIn tokenOut amount : String) (deadline : Option UInt64)
  | bridgeQuote (origin dest : ChainId) (tokenIn tokenOut amount : String) (deadline : Option UInt64)
  | pools (chain : ChainId)
  | bridgeGas (chain : ChainId)
deriving DecidableEq, Repr

structure Invocation where
  config : Option String
  logJson : Bool
  command : Command
deriving DecidableEq, Repr

-- An option that takes a value, or a switch.
structure Flag where
  name : String
  valueName : Option String := none
  isNumber : Bool := false
  isRequired : Bool := false
deriving DecidableEq, Repr

def Flag.text (f : Flag) : String :=
  match f.valueName with
  | some value => s!"--{f.name} <{value}>"
  | none => s!"--{f.name}"

inductive Usage where
  | help
  | version
  | nothingAsked
  | missingCommand
  | unknownCommand (word : String)
  | unexpected (argument : String)
  | missingValue (flag : Flag)
  | unwantedValue (flag : Flag) (value : String)
  | repeated (flag : Flag)
  | badValue (flag : Flag) (value reason : String)
  | missing (flags : List Flag)
deriving DecidableEq, Repr

namespace Usage

def programName : String := "synapse-router"

def about : String := "Synapse bridge/swap quote SDK"

def versionText : String := s!"{programName} 0.1.0"

-- Help and the version are what was asked for; all else is a fault.
def exitCode : Usage → UInt8
  | .help | .version => 0
  | _ => 2

def lines : Usage → List String
  | .version => [versionText]
  | .help | .nothingAsked => [about, "", s!"Usage: {programName} [OPTIONS] <COMMAND>"]
  | .missingCommand => [s!"error: '{programName}' requires a subcommand but one was not provided"]
  | .unknownCommand word => [s!"error: unrecognized subcommand '{word}'"]
  | .unexpected argument => [s!"error: unexpected argument '{argument}' found"]
  | .missingValue flag => [s!"error: a value is required for '{flag.text}' but none was supplied"]
  | .unwantedValue flag value =>
    [s!"error: unexpected value '{value}' for '{flag.text}' found; no more were expected"]
  | .repeated flag => [s!"error: the argument '{flag.text}' cannot be used multiple times"]
  | .badValue flag value reason => [s!"error: invalid value '{value}' for '{flag.text}': {reason}"]
  | .missing flags =>
    "error: the following required arguments were not provided:" :: flags.map fun flag => "  " ++ flag.text

end Usage

end RouteQuote.CommandLine
