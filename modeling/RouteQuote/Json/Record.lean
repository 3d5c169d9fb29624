import RouteQuote.Json.Reader

namespace RouteQuote.Json

-- The start of a value that does not fit.
inductive Found where
  | scalar (j : Json)
  | sequence
  | map

def Found.text : Found → String
  | .scalar .null => "null"
  | .scalar (.bool b) => s!"boolean `{b}`"
  | .scalar (.int n) => s!"integer `{n}`"
  | .scalar (.float x) => s!"floating point `{x.compactText}`"
  | .scalar (.string s) => s!"string {Text.quoted s}"
  | .scalar (.array _) | .sequence => "sequence"
  | .scalar (.object _) | .map => "map"

namespace Reader

def wrongType (found : Found) (wanted : String) : Reader α :=
  throw (.unfit s!"invalid type: {found.text}, expected {wanted}")

def wrongValue (found : Found) (wanted : String) : Reader α :=
  throw (.unfit s!"invalid value: {found.text}, expected {wanted}")

-- The value that is next, as far as an error shows it: a scalar is read, a bracket is not.
def found : Reader Found := do
  let c ← opening
  if c = '[' then return .sequence
  else if c = '\x7b' then return .map
  else return .scalar (← value 1)

def text : Reader String := do
  let c ← opening
  if c = '"' then advance; stringBody
  else wrongType (← found) "a string"

def flag : Reader Bool := do
  let c ← opening
  if c = 't' ∨ c = 'f' then
    match ← value 1 with
    | .bool b => return b
    | _ => throw .malformed
  else wrongType (← found) "a boolean"

-- An unsigned integer below a bound, which is named in errors.
def natural (bound : Nat) (name : String) : Reader Nat := do
  match ← found with
  | .scalar (.int n) => if 0 ≤ n ∧ n < bound then return n.toNat else wrongValue (.scalar (.int n)) name
  | other => wrongType other name

def byte : Reader Nat := natural 256 "u8"

def arrayOf (item : Reader α) : Reader (List α) := do
  let c ← opening
  if c = '[' then
    advance
    items item true ((← get).length + 1)
  else wrongType (← found) "a sequence"

def optional (value : Reader α) : Reader (Option α) := do
  let c ← opening
  if c = 'n' then advance; literal ['u', 'l', 'l']; return none
  else return some (← value)

def mapOf (item : Reader α) : Reader (List (String × α)) := do
  let c ← opening
  if c = '\x7b' then
    advance
    members item true ((← get).length + 1)
  else wrongType (← found) "a map"

end Reader

-- A field of a record: its name, how its value is read, and the values it has when an object leaves it
-- out and when an array ends before it.
structure Field where
  key : String
  {α : Type}
  read : Reader α
  absent : Option α := none
  beyond : Option α := none

@[reducible] def Row : List Field → Type
  | [] => Unit
  | f :: fs => f.α × Row fs

@[reducible] def Slots : List Field → Type
  | [] => Unit
  | f :: fs => Option f.α × Slots fs

namespace Slots

def empty : (fs : List Field) → Slots fs
  | [] => ()
  | _ :: fs => (none, empty fs)

-- The reader for the member of that name; none when no field has it.
def member (key : String) : (fs : List Field) → Slots fs → Option (Reader (Slots fs))
  | [], _ => none
  | f :: fs, (slot, slots) =>
    if f.key = key then
      match slot with
      | some _ => some (throw (.unfit s!"duplicate field `{key}`"))
      | none => some (do Reader.colon; return (some (← f.read), slots))
    else (member key fs slots).map fun read => do return (slot, ← read)

-- All values, if every field has one; else the first that has none is named.
def complete : (fs : List Field) → Slots fs → Reader (Row fs)
  | [], _ => return ()
  | f :: fs, (slot, slots) =>
    match slot.or f.absent with
    | some a => do return (a, ← complete fs slots)
    | none => throw (.unfit s!"missing field `{f.key}`")

end Slots

namespace Reader

def recordMembers (fs : List Field) (slots : Slots fs) (first : Bool) : Nat → Reader (Row fs)
  | 0 => throw .unfinished
  | fuel + 1 => do
    if ← hasMember first then
      let key ← memberName
      let slots ← match slots.member key with
        | some read => read
        | none => do colon; skip; pure slots
      recordMembers fs slots false fuel
    else
      let row ← slots.complete
      advance
      return row

def countText (n : Nat) : String := if n = 1 then "1 element" else s!"{n} elements"

-- The items for the fields, in their order. An item that is missing takes the field's own value; else
-- the count is wrong.
def recordItems (wanted : String) (read : Nat) (first : Bool) : (fs : List Field) → Reader (Row fs)
  | [] => return ()
  | f :: fs => do
    if ← hasItem first then
      let a ← f.read
      return (a, ← recordItems wanted (read + 1) false fs)
    else match f.beyond with
      | some a => return (a, ← recordItems wanted (read + 1) first fs)
      | none => throw (.unfit s!"invalid length {read}, expected {wanted}")

def record (name : String) (fs : List Field) : Reader (Row fs) := do
  let c ← opening
  if c = '\x7b' then
    advance
    recordMembers fs (Slots.empty fs) true ((← get).length + 1)
  else if c = '[' then
    advance
    let row ← recordItems s!"struct {name} with {countText fs.length}" 0 true fs
    closeArray
    return row
  else wrongType (← found) s!"struct {name}"

end Reader

end RouteQuote.Json
