import RouteQuote.CommandLine.Usage
import RouteQuote.Text.Basic

namespace RouteQuote.CommandLine

def configFlag : Flag := { name := "config", valueName := some "CONFIG" }

def logJsonFlag : Flag := { name := "log-json" }

def globalFlags : List Flag := [configFlag, logJsonFlag]

def required (name valueName : String) (isNumber : Bool) : Flag :=
  { name, valueName := some valueName, isNumber, isRequired := true }

def bindFlag : Flag := { name := "bind", valueName := some "BIND" }

def chainFlag : Flag := required "chain" "CHAIN" true

def fromChainFlag : Flag := required "from-chain" "FROM_CHAIN" true

def toChainFlag : Flag := required "to-chain" "TO_CHAIN" true

def tokenInFlag : Flag := required "token-in" "TOKEN_IN" false

def tokenOutFlag : Flag := required "token-out" "TOKEN_OUT" false

def amountFlag : Flag := required "amount" "AMOUNT" false

def deadlineFlag : Flag := { name := "deadline", valueName := some "DEADLINE", isNumber := true }

inductive CommandName where
  | serve
  | swapQuote
  | bridgeQuote
  | pools
  | bridgeGas
deriving DecidableEq, Repr

namespace CommandName

def ofWord? : String → Option CommandName
  | "serve" => some .serve
  | "swap-quote" => some .swapQuote
  | "bridge-quote" => some .bridgeQuote
  | "pools" => some .pools
  | "bridge-gas" => some .bridgeGas
  | _ => none

def flags : CommandName → List Flag
  | .serve => [bindFlag]
  | .swapQuote => [chainFlag, tokenInFlag, tokenOutFlag, amountFlag, deadlineFlag]
  | .bridgeQuote => [fromChainFlag, toChainFlag, tokenInFlag, tokenOutFlag, amountFlag, deadlineFlag]
  | .pools | .bridgeGas => [chainFlag]

end CommandName

-- The values given so far; a switch has an empty one.
abbrev Values := List (Flag × String)

-- The options read so far, and one whose value may still be to come.
structure Scan where
  values : Values := []
  pending : Option (Flag × Option String) := none

-- Why a text is no number of 64 bits; none when it is one.
def numberFault? (s : String) : Option String :=
  let digits := match s.toList with
    | '+' :: rest => rest
    | all => all
  if s = "" then some "cannot parse integer from empty string"
  else if digits.isEmpty || !digits.all Char.isDigit then some "invalid digit found in string"
  else if (Text.unsigned? UInt64.size s.toList).isNone then some "number too large to fit in target type"
  else none

def Scan.give (s : Scan) (flag : Flag) (value : String) : Except Usage Scan :=
  if s.values.any (·.1 == flag) then .error (.repeated flag)
  else match if flag.isNumber then numberFault? value else none with
    | some reason => .error (.badValue flag value reason)
    | none => .ok { values := s.values ++ [(flag, value)] }

-- Looks at the option whose value was to come.
def Scan.settle (s : Scan) : Except Usage Scan :=
  match s.pending with
  | none => .ok s
  | some (flag, none) => .error (.missingValue flag)
  | some (flag, some value) => s.give flag value

-- A known option, with what follows its equals sign.
def Scan.option (s : Scan) (flag : Flag) (attached : Option String) : Except Usage Scan := do
  let s ← s.settle
  match flag.valueName, attached with
  | some _, some value => s.give flag value
  | some _, none => return { s with pending := some (flag, none) }
  | none, some value => throw (.unwantedValue flag value)
  | none, none => s.give flag ""

-- The name of a long option, and what follows its equals sign.
def longOption (s : List Char) : String × Option String :=
  match Text.splitOnce '=' s with
  | some (name, value) => (String.ofList name, some (String.ofList value))
  | none => (String.ofList s, none)

-- What a word without dashes is for: a value that is awaited, or something of its own.
inductive Word where
  | taken (s : Scan)
  | own

def Scan.word (s : Scan) (w : String) : Word :=
  match s.pending with
  | some (flag, none) => .taken { s with pending := some (flag, some w) }
  | _ => .own

-- An argument with dashes. Only the program as a whole has a version.
def Scan.dashed (s : Scan) (flags : List Flag) (hasVersion : Bool) (argument : List Char) : Except Usage Scan :=
  match argument with
  | '-' :: '-' :: rest =>
    let (name, attached) := longOption rest
    match flags.find? (·.name == name) with
    | some flag => s.option flag attached
    | none =>
      if name = "help" then do let _ ← s.settle; throw .help
      else if name = "version" ∧ hasVersion then do let _ ← s.settle; throw .version
      else .error (.unexpected s!"--{name}")
  | '-' :: 'h' :: _ => do let _ ← s.settle; throw .help
  | _ :: c :: _ =>
    if c = 'V' ∧ hasVersion then do let _ ← s.settle; throw .version
    else .error (.unexpected (String.ofList ['-', c]))
  | _ => .error (.unexpected (String.ofList argument))

def isDashed (argument : String) : Bool :=
  match argument.toList with
  | '-' :: _ :: _ => true
  | _ => false

def scanCommand (flags : List Flag) (s : Scan) : List String → Except Usage Scan
  | [] => s.settle
  | argument :: rest =>
    if argument = "--" then
      match rest with
      | [] => s.settle
      | next :: _ => .error (.unexpected next)
    else if isDashed argument then do scanCommand flags (← s.dashed flags false argument.toList) rest
    else match s.word argument with
      | .taken s => scanCommand flags s rest
      | .own => .error (.unexpected argument)

-- The options of the program, the command, and the arguments after it.
def scanProgram (s : Scan) : List String → Except Usage (Scan × Option (String × List String))
  | [] => do return (← s.settle, none)
  | argument :: rest =>
    if argument = "--" then
      match rest with
      | [] => do return (← s.settle, none)
      | next :: _ => .error (.unknownCommand next)
    else if isDashed argument then do scanProgram (← s.dashed globalFlags true argument.toList) rest
    else match s.word argument with
      | .taken s => scanProgram s rest
      | .own => do return (← s.settle, some (argument, rest))

def value? (values : Values) (flag : Flag) : Option String := (values.find? (·.1 == flag)).map Prod.snd

def text (values : Values) (flag : Flag) : String := (value? values flag).getD ""

def number? (values : Values) (flag : Flag) : Option UInt64 :=
  (value? values flag).map fun s => UInt64.ofNat ((Text.unsigned? UInt64.size s.toList).getD 0)

def number (values : Values) (flag : Flag) : UInt64 := (number? values flag).getD 0

def missingFlags (flags : List Flag) (values : Values) : List Flag :=
  flags.filter fun flag => flag.isRequired && (value? values flag).isNone

def commandOf (name : CommandName) (values : Values) : Command :=
  match name with
  | .serve => .serve (value? values bindFlag)
  | .swapQuote =>
    .swapQuote (number values chainFlag) (text values tokenInFlag) (text values tokenOutFlag) (text values amountFlag)
      (number? values deadlineFlag)
  | .bridgeQuote =>
    .bridgeQuote (number values fromChainFlag) (number values toChainFlag) (text values tokenInFlag)
      (text values tokenOutFlag) (text values amountFlag) (number? values deadlineFlag)
  | .pools => .pools (number values chainFlag)
  | .bridgeGas => .bridgeGas (number values chainFlag)

-- The invocation that the arguments write. Of a program option that is given twice, before the command and
-- after it, the later counts.
def parse (hasDefaultConfig : Bool) (arguments : List String) : Except Usage Invocation := do
  let (outer, rest) ← scanProgram {} arguments
  match rest with
  | none => throw (if outer.values.isEmpty && !hasDefaultConfig then .nothingAsked else .missingCommand)
  | some (word, rest) =>
    match CommandName.ofWord? word with
    | none => throw (if word = "help" then .help else .unknownCommand word)
    | some name =>
      let inner ← scanCommand (name.flags ++ globalFlags) {} rest
      match missingFlags name.flags inner.values with
      | [] =>
        let values := inner.values ++ outer.values
        return ⟨value? values configFlag, (value? values logJsonFlag).isSome, commandOf name inner.values⟩
      | flags => throw (.missing flags)

end RouteQuote.CommandLine
