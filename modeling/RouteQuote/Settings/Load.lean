import RouteQuote.Environment
import RouteQuote.Json.Reader
import RouteQuote.Settings.Convert
import RouteQuote.Toml

namespace RouteQuote.Settings

-- Names and contents of the files of the working directory.
abbrev Files := List (String × String)

inductive Format where
  | toml
  | json
deriving DecidableEq, Repr

def Format.suffix : Format → String
  | .toml => "toml"
  | .json => "json"

def formats : List Format := [.toml, .json]

-- What follows the last dot of a name, unless the name begins with it.
def suffix? (name : String) : Option String :=
  let last := (Text.split '/' name.toList).getLast?.getD []
  match Text.splitOnce '.' last.reverse with
  | some (suffix, before) => if before.isEmpty then none else some (String.ofList suffix.reverse)
  | none => none

-- The path that is asked for, else the one in the environment.
def configPath? (path : Option String) (env : Environment) : Option String :=
  match path.map Text.trimmed with
  | some p => if p = "" then env.nonBlank? "SYNAPSE_CONFIG" else some p
  | none => env.nonBlank? "SYNAPSE_CONFIG"

def withSuffix (name : String) (format : Format) : String := name ++ "." ++ format.suffix

def candidates (name : String) : List String := name :: formats.map (withSuffix name)

def fullPath (directory name : String) : String := if name.startsWith "/" then name else directory ++ "/" ++ name

-- A file as it is named, whose format its suffix tells; else one with a suffix added.
def find (files : Files) (directory name : String) : Except SourceFault (String × Format × String) :=
  match files.lookup name with
  | some content =>
    match formats.find? fun format => suffix? name = some format.suffix with
    | some format => .ok (name, format, content)
    | none => .error (.unsupported (fullPath directory name))
  | none =>
    match formats.findSome? fun format => (files.lookup (withSuffix name format)).map fun content => (format, content) with
    | some (format, content) => .ok (withSuffix name format, format, content)
    | none => .error (.missing name)

mutual

-- Of several members of one name only the last stays.
def lastMembers : Json → Json
  | .object members => .object (distinct members)
  | .array items => .array (lastItems items)
  | j => j

def lastItems : List Json → List Json
  | [] => []
  | item :: rest => lastMembers item :: lastItems rest

def distinct : List (String × Json) → List (String × Json)
  | [] => []
  | (key, value) :: rest =>
    let rest := distinct rest
    if (rest.lookup key).isSome then rest else (key, lastMembers value) :: rest

end

-- Reads a document of a format; none when it is malformed. Loading goes by any such reader.
abbrev Documents := Format → String → Option Json

def Format.read : Documents
  | .toml, text => Toml.parse? text
  | .json, text => (Json.parse text).toOption.map lastMembers

def parseFile (documents : Documents) (name : String) (format : Format) (content : String) :
    Except SourceFault (List (String × Node)) :=
  match documents format (String.ofList (Environment.withoutByteOrderMark content.toList)) with
  | some (.object members) => .ok (Node.ofMembers name members)
  | _ => .error (.unreadable name)

-- The members of the file of that name, which may be missing when nobody asked for it.
def fileMembers (documents : Documents) (files : Files) (directory : String) (path : Option String) :
    Except SourceFault (List (String × Node)) := do
  match path with
  | some name =>
    let (name, format, content) ← find files directory name
    parseFile documents name format content
  | none =>
    match find files directory "config" with
    | .ok (name, format, content) => parseFile documents name format content
    | .error _ => return []

def environmentOrigin : String := "the environment"

-- Every variable under its name in lower case.
def environmentMembers (env : Environment) : List (String × Node) :=
  env.map fun (name, value) => (Text.lowercase name, .leaf (some environmentOrigin) (.string value))

def assignAll (root : Node) (members : List (String × Node)) : Node :=
  members.foldl (fun root (name, value) => root.assign name value) root

-- The environment with the assignments in the file that is kept for them.
def environment (env : Environment) (files : Files) : Environment :=
  match files.lookup ".env" with
  | some text => env.withFile text
  | none => env

-- The chains that the variable for them lists, if it is not blank.
def withChainsOf (env : Environment) (s : Settings) : Except ConfigFault Settings :=
  match env.nonBlank? "CHAINS" with
  | some text => do return { s with chains := ← Input.chainList text }
  | none => .ok s

-- All addresses at the port that the variable for it names, if it is not blank.
def withPortOf (env : Environment) (s : Settings) : Except ConfigFault Settings :=
  match env.nonBlank? "PORT" with
  | some port =>
    match Text.unsigned? UInt16.size port.toList with
    | some n => .ok { s with httpBind := s!"0.0.0.0:{n}" }
    | none => .error (.port port)
  | none => .ok s

def requireChains (s : Settings) : Except ConfigFault Settings :=
  if s.chains.isEmpty then .error .noChains else .ok s

def layered (documents : Documents) (env : Environment) (files : Files) (directory : String) (path : Option String) :
    Except SourceFault Settings := do
  let members ← fileMembers documents files directory (configPath? path env)
  ofNode (assignAll (assignAll .empty members) (environmentMembers env))

def load (documents : Documents) (env : Environment) (files : Files) (directory : String) (path : Option String) :
    Except Error Settings := do
  let env := environment env files
  let settings := match layered documents env files directory path with
    | .ok s => .ok s
    | .error fault => .error (.source fault)
  match settings >>= withChainsOf env >>= withPortOf env >>= requireChains with
  | .ok s => return s
  | .error fault => throw (.config fault)

end RouteQuote.Settings
