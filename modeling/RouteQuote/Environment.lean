import RouteQuote.Text.Basic
import RouteQuote.Text.Printing

namespace RouteQuote

abbrev Environment := List (String × String)

namespace Environment

def ofList (assigned : List (String × String)) : Environment := assigned.mergeSort fun a b => a.1 ≤ b.1

def get? (env : Environment) (name : String) : Option String := env.lookup name

-- The value without the blanks around it, unless it is blank.
def nonBlank? (env : Environment) (name : String) : Option String :=
  (env.get? name).bind fun value =>
    let value := Text.trimmed value
    if value = "" then none else some value

def setNew (env : Environment) (name value : String) : Environment :=
  if (env.get? name).isSome then env else env ++ [(name, value)]

end Environment

end RouteQuote

namespace RouteQuote.Environment

open Text

-- Where a scan for the end of a statement stands.
inductive Quoting where
  | plain
  | afterBlank
  | escape
  | single
  | singleEscape
  | double
  | doubleEscape
deriving DecidableEq, Repr

-- The next state; none where a comment begins.
def Quoting.next (q : Quoting) (c : Char) : Option Quoting :=
  let opened : Quoting := if c = '\\' then .escape else if c = '"' then .double else if c = '\'' then .single else .plain
  match q with
  | .plain => if isBlank c && c != '\n' && c != '\r' then some .afterBlank else some opened
  | .afterBlank => if c = '#' then none else some opened
  | .escape => some .plain
  | .single => some (if c = '\\' then .singleEscape else if c = '\'' then .plain else .single)
  | .singleEscape => some .single
  | .double => some (if c = '\\' then .doubleEscape else if c = '"' then .plain else .double)
  | .doubleEscape => some .double

-- The characters before a comment, and the state after them when there is none.
def beforeComment (q : Quoting) : List Char → List Char × Option Quoting
  | [] => ([], some q)
  | c :: rest =>
    match q.next c with
    | none => ([], none)
    | some q =>
      let (before, last) := beforeComment q rest
      (c :: before, last)

-- A variable whose value is to be put in: none, one named by the letters and digits that follow, or one
-- named between braces.
inductive Reference where
  | absent
  | bare (name : List Char)
  | braced (name : List Char)
deriving DecidableEq, Repr

structure ValueScan where
  isSingle : Bool := false
  isDouble : Bool := false
  isEscaped : Bool := false
  isEnding : Bool := false
  reference : Reference := .absent
  output : List Char := []

def isNameChar (c : Char) : Bool := if c.toNat < 0x80 then c.isAlphanum else prints c

def valueOf (env : Environment) (name : List Char) : List Char := ((env.get? (String.ofList name)).getD "").toList

namespace ValueScan

def push (s : ValueScan) (cs : List Char) : ValueScan := { s with output := s.output ++ cs }

-- An escape stands for one of six characters.
def escaped (s : ValueScan) (c : Char) : Option ValueScan :=
  let s := { s with isEscaped := false }
  if c = 'n' then some (s.push ['\n'])
  else if ['\\', '\'', '"', '$', ' '].contains c then some (s.push [c])
  else none

def inReference (env : Environment) (s : ValueScan) (c : Char) : ValueScan :=
  match s.reference with
  | .absent => s
  | .bare name =>
    if isNameChar c then { s with reference := .bare (name ++ [c]) }
    else if c = '\x7b' ∧ name = [] then { s with reference := .braced [] }
    else
      let s := s.push (valueOf env name)
      if c = '$' then { s with reference := .bare [] } else { s with reference := .absent }.push [c]
  | .braced name =>
    if c = '\x7d' then { s with reference := .absent }.push (valueOf env name)
    else { s with reference := .braced (name ++ [c]) }

def next (env : Environment) (s : ValueScan) (c : Char) : Option ValueScan :=
  if s.isEscaped then s.escaped c
  else if s.isSingle then some (if c = '\'' then { s with isSingle := false } else s.push [c])
  else if s.reference ≠ .absent then some (s.inReference env c)
  else if c = '$' then some { s with reference := .bare [] }
  else if c = '\\' then some { s with isEscaped := true }
  else if c = '"' then some { s with isDouble := !s.isDouble }
  else if s.isDouble then some (s.push [c])
  else if c = '\'' then some { s with isSingle := true }
  else if c = ' ' ∨ c = '\t' then some { s with isEnding := true }
  else some (s.push [c])

def finish (env : Environment) (s : ValueScan) : Option (List Char) :=
  match s.reference with
  | .braced _ => none
  | .bare name => if s.isSingle || s.isDouble then none else some (s.output ++ valueOf env name)
  | .absent => if s.isSingle || s.isDouble then none else some s.output

-- After a value without quotes only blanks and a comment may follow.
def read (env : Environment) (s : ValueScan) : List Char → Option (List Char)
  | [] => s.finish env
  | c :: rest =>
    if s.isEnding then
      if c = ' ' ∨ c = '\t' then s.read env rest else if c = '#' then s.finish env else none
    else match s.next env c with
      | some s => s.read env rest
      | none => none

end ValueScan

def isKeyStart (c : Char) : Bool := c.isAlpha || c == '_'

def isKeyChar (c : Char) : Bool := c.isAlphanum || c == '_' || c == '.'

-- A name, and what follows it after blanks.
def key? (s : List Char) : Option (List Char × List Char) :=
  match s.head? with
  | some c =>
    if isKeyStart c then some (s.takeWhile isKeyChar, (s.dropWhile isKeyChar).dropWhile isBlank) else none
  | none => none

-- The name before the equals sign, and what follows the sign.
def target? (s : List Char) : Option (List Char × List Char) := do
  match ← key? s with
  | (key, '=' :: rest) => return (key, rest)
  | (key, rest) =>
    if key = ['e', 'x', 'p', 'o', 'r', 't'] then
      match ← key? rest with
      | (key, '=' :: rest) => return (key, rest)
      | _ => none
    else none

def trimEnd (s : List Char) : List Char := (s.reverse.dropWhile isBlank).reverse

def isEmptyOrComment (s : List Char) : Bool := s.isEmpty || s.head? == some '#'

-- The environment after a statement; none when it is no assignment.
def assign? (env : Environment) (statement : List Char) : Option Environment :=
  let s := (trimEnd statement).dropWhile isBlank
  if isEmptyOrComment s then some env
  else do
    let (key, rest) ← target? s
    let rest := rest.dropWhile isBlank
    let value ← if isEmptyOrComment rest then some [] else ({} : ValueScan).read env rest
    return env.setNew (String.ofList key) (String.ofList value)

-- The lines of a text, each with the line break that ends it.
def linesOf : List Char → List (List Char)
  | [] => []
  | c :: rest =>
    if c = '\n' then [c] :: linesOf rest
    else match linesOf rest with
      | line :: lines => (c :: line) :: lines
      | [] => [[c]]

-- How far a file was read: the lines of a statement that is not complete, and whether reading stopped.
structure Progress where
  env : Environment
  quoting : Quoting := .plain
  pending : List Char := []
  isStopped : Bool := false

def withoutLineBreak (s : List Char) : List Char :=
  match s.reverse with
  | '\n' :: '\r' :: rest => rest.reverse
  | '\n' :: rest => rest.reverse
  | _ => s

def Progress.complete (p : Progress) (statement : List Char) : Progress :=
  match assign? p.env statement with
  | some env => { env }
  | none => { p with isStopped := true }

def Progress.line (p : Progress) (line : List Char) : Progress :=
  let lines := p.pending ++ line
  if p.isStopped then p
  else if (lines.dropWhile isBlank).head? = some '#' then { env := p.env }
  else match beforeComment p.quoting line with
    | (before, none) => p.complete (p.pending ++ before)
    | (_, some .plain) => p.complete (withoutLineBreak lines)
    | (_, some quoting) => { p with quoting, pending := lines }

def withoutByteOrderMark (s : List Char) : List Char := if s.head? = some (Char.ofNat 0xFEFF) then s.drop 1 else s

def withFile (env : Environment) (text : String) : Environment :=
  ((linesOf (withoutByteOrderMark text.toList)).foldl Progress.line { env }).env

end RouteQuote.Environment
