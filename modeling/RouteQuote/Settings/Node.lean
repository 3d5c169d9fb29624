import RouteQuote.Json.Value

namespace RouteQuote.Settings

inductive Node where
  | leaf (origin : Option String) (value : Json)
  | list (origin : Option String) (items : List Node)
  | table (origin : Option String) (members : List (String × Node))
deriving Inhabited

inductive Step where
  | key (name : String)
  | index (n : Int)
deriving DecidableEq, Repr

namespace Step

def isKeyChar (c : Char) : Bool := c.isAlphanum || c == '_' || c == '-'

def index? (s : List Char) : Option Int :=
  let s := s.dropWhile fun c => c == ' ' || c == '\t'
  let s := (s.reverse.dropWhile fun c => c == ' ' || c == '\t').reverse
  let digits := if s.head? = some '-' then s.drop 1 else s
  if digits.isEmpty || !digits.all Char.isDigit then none
  else
    let n : Int := digits.foldl (fun n c => 10 * n + (c.toNat - 48)) 0
    some (if s.head? = some '-' then -n else n)

-- Dots and brackets, up to the end of the text.
def rest? : Nat → List Char → Option (List Step)
  | _, [] => some []
  | 0, _ => none
  | fuel + 1, '.' :: s =>
    let name := s.takeWhile isKeyChar
    if name.isEmpty then none
    else (rest? fuel (s.drop name.length)).map (.key (String.ofList name) :: ·)
  | fuel + 1, '[' :: s => do
    let inner := s.takeWhile (· != ']')
    if inner.length = s.length then none
    else return .index (← index? inner) :: (← rest? fuel (s.drop (inner.length + 1)))
  | _, _ => none

-- The path that a name stands for: names and indices, or the name itself when it is no path.
def ofName (name : String) : List Step :=
  let first := name.toList.takeWhile isKeyChar
  let rest := name.toList.drop first.length
  if first.isEmpty then [.key name]
  else match rest? rest.length rest with
    | some steps => .key (String.ofList first) :: steps
    | none => [.key name]

end Step

namespace Node

def null : Node := .leaf none .null

mutual

def ofJson (origin : String) : Json → Node
  | .array items => .list (some origin) (ofItems origin items)
  | .object members => .table (some origin) (ofMembers origin members)
  | value => .leaf (some origin) value

def ofItems (origin : String) : List Json → List Node
  | [] => []
  | item :: rest => ofJson origin item :: ofItems origin rest

def ofMembers (origin : String) : List (String × Json) → List (String × Node)
  | [] => []
  | (key, value) :: rest => (key, ofJson origin value) :: ofMembers origin rest

end

def origin : Node → Option String
  | .leaf origin _ | .list origin _ | .table origin _ => origin

-- The value of the last member of that name.
def get? (n : Node) (key : String) : Option Node :=
  match n with
  | .table _ members => members.reverse.lookup key
  | _ => none

-- Puts a member in place of the one of its name, or at the end.
def put (key : String) (value : Node) : List (String × Node) → List (String × Node)
  | [] => [(key, value)]
  | (k, v) :: rest => if k = key then (k, value) :: rest else (k, v) :: put key value rest

-- Changes the item at an index, counted from the end when it is negative. The list grows as far as it has
-- to, at either end.
def changeAt (f : Node → Node) (items : List Node) (n : Int) : List Node :=
  let size : Int := items.length
  if 0 ≤ n then
    let items := items ++ List.replicate (n + 1 - size).toNat null
    items.modify n.toNat f
  else if -n ≤ size then items.modify (size + n).toNat f
  else (List.replicate (-n - size).toNat null ++ items).modify 0 f

-- Changes what a path leads to. What stands in the way of the path gives way to a table or a list.
def change (f : Node → Node) : List Step → Node → Node
  | [], n => f n
  | .key key :: rest, .table origin members =>
    .table origin (put key (change f rest ((members.lookup key).getD null)) members)
  | .key key :: rest, _ => .table none [(key, change f rest null)]
  | .index i :: rest, .list origin items => .list origin (changeAt (change f rest) items i)
  | .index i :: rest, _ => .list none (changeAt (change f rest) [] i)

def asTable : Node → Node
  | .table origin members => .table origin members
  | _ => .table none []

mutual

-- Lays a value over what was there.
def overlay : Node → Node → Node
  | .table _ members, below => overlayMembers members below.asTable
  | value, _ => value

def overlayMembers : List (String × Node) → Node → Node
  | [], below => below
  | (key, value) :: rest, below => overlayMembers rest (below.change (overlay value) [.key key])

end

def assign (root : Node) (name : String) (value : Node) : Node := root.change (overlay value) (Step.ofName name)

def empty : Node := .table none []

end Node

end RouteQuote.Settings
