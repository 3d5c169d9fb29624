import RouteQuote.Address
import RouteQuote.Amount
import RouteQuote.Hash.Keccak

namespace RouteQuote.Abi

inductive Arity where
  | one
  | row

inductive Shape : Arity → Type where
  | address : Shape .one
  | uint (bits : Nat) : Shape .one
  | bool : Shape .one
  | bytes : Shape .one
  | string : Shape .one
  | array (item : Shape .one) : Shape .one
  | tuple (members : Shape .row) : Shape .one
  | nil : Shape .row
  | cons (first : Shape .one) (rest : Shape .row) : Shape .row

namespace Shape

-- What a value of the type is. Integers of any width are kept as amounts.
@[reducible] def Value : Shape k → Type
  | .address => Address
  | .uint _ => Amount
  | .bool => Bool
  | .bytes => List UInt8
  | .string => String
  | .array item => List item.Value
  | .tuple members => members.Value
  | .nil => Unit
  | .cons first rest => first.Value × rest.Value

-- Values of the type differ in length, so they stand behind an offset.
def isDynamic : Shape k → Bool
  | .address | .uint _ | .bool => false
  | .bytes | .string | .array _ => true
  | .tuple members => members.isDynamic
  | .nil => false
  | .cons first rest => first.isDynamic || rest.isDynamic

-- How many words of its surroundings a value takes: an offset, or the value itself.
def words : Shape k → Nat
  | .address | .uint _ | .bool | .bytes | .string | .array _ => 1
  | .tuple members => if members.isDynamic then 1 else members.words
  | .nil => 0
  | .cons first rest => first.words + rest.words

mutual

def name : Shape .one → String
  | .address => "address"
  | .uint bits => s!"uint{bits}"
  | .bool => "bool"
  | .bytes => "bytes"
  | .string => "string"
  | .array item => item.name ++ "[]"
  | .tuple members => "(" ++ members.names ++ ")"

def names : Shape .row → String
  | .nil => ""
  | .cons first .nil => first.name
  | .cons first (.cons second rest) => first.name ++ "," ++ names (.cons second rest)

end

end Shape

structure Function where
  name : String
  inputs : Shape .row
  outputs : Shape .row

def Function.signature (f : Function) : String := f.name ++ "(" ++ f.inputs.names ++ ")"

-- A number as 32 bytes, the most significant first.
def word (n : Nat) : List UInt8 := Address.bytesOfNat 32 n

def paddedLength (n : Nat) : Nat := (n + 31) / 32 * 32

def padded (bytes : List UInt8) : List UInt8 :=
  bytes ++ List.replicate (paddedLength bytes.length - bytes.length) 0

-- The encoding of a value, and whether it stands behind an offset.
structure Part where
  isDynamic : Bool
  bytes : List UInt8

def Part.headLength (p : Part) : Nat := if p.isDynamic then 32 else p.bytes.length

-- The heads of the parts, when what stands behind the next offset starts so far from the row's start.
def heads (offset : Nat) : List Part → List UInt8
  | [] => []
  | p :: ps =>
    if p.isDynamic then word offset ++ heads (offset + p.bytes.length) ps else p.bytes ++ heads offset ps

def tails : List Part → List UInt8
  | [] => []
  | p :: ps => if p.isDynamic then p.bytes ++ tails ps else tails ps

def headsLength (parts : List Part) : Nat := parts.foldr (fun part n => part.headLength + n) 0

def assemble (parts : List Part) : List UInt8 := heads (headsLength parts) parts ++ tails parts

-- One part for a type, and one for each member of a row.
def parts : (t : Shape k) → t.Value → List Part
  | .address, a => [⟨false, word a.value.val⟩]
  | .uint _, n => [⟨false, word n.val⟩]
  | .bool, b => [⟨false, word (if b then 1 else 0)⟩]
  | .bytes, b => [⟨true, word b.length ++ padded b⟩]
  | .string, s => [⟨true, word (Text.utf8Bytes s).length ++ padded (Text.utf8Bytes s)⟩]
  | .array item, xs => [⟨true, word xs.length ++ assemble (xs.flatMap fun x => parts item x)⟩]
  | .tuple members, v => [⟨members.isDynamic, assemble (parts members v)⟩]
  | .nil, _ => []
  | .cons first rest, v => parts first v.1 ++ parts rest v.2

def encodeRow (t : Shape .row) (v : t.Value) : List UInt8 := assemble (parts t v)

def Function.selector (f : Function) : List UInt8 := (Hash.keccak256 (Text.utf8Bytes f.signature)).take 4

def Function.calldata (f : Function) (arguments : f.inputs.Value) : List UInt8 :=
  f.selector ++ encodeRow f.inputs arguments

inductive Fault where
  | overrun
  | badCount (word : List UInt8)
  | badSelector (function : String) (data : List UInt8)
deriving DecidableEq, Repr

def Fault.message : Fault → String
  | .overrun => "ABI decoding failed: buffer overrun while deserializing"
  | .badCount word =>
    "type check failed for \"offset (usize)\" with data: " ++ String.ofList (Text.hexOfBytes word)
  | .badSelector function data =>
    "type check failed for \"" ++ function ++ "\"" ++
      if data.isEmpty then "" else " with data: " ++ String.ofList (Text.hexOfBytes data)

def takeWord (rest : List UInt8) : Except Fault (List UInt8 × List UInt8) :=
  let w := rest.take 32
  if w.length = 32 then .ok (w, rest.drop 32) else .error .overrun

def takeNat (rest : List UInt8) : Except Fault (Nat × List UInt8) := do
  let (w, rest) ← takeWord rest
  return (Address.natOfBytes w, rest)

-- An offset or a length: a word below 2 ^ 64.
def takeCount (rest : List UInt8) : Except Fault (Nat × List UInt8) := do
  let (w, rest) ← takeWord rest
  let n := Address.natOfBytes w
  if n < UInt64.size then return (n, rest) else throw (.badCount w)

-- What an offset that is next points to, counted from the start of the surroundings.
def follow (start rest : List UInt8) : Except Fault (List UInt8 × List UInt8) := do
  let (offset, rest) ← takeCount rest
  if offset ≤ start.length then return (start.drop offset, rest) else throw .overrun

def takeBytes (rest : List UInt8) : Except Fault (List UInt8) := do
  let (n, rest) ← takeCount rest
  if n ≤ rest.length then return rest.take n else throw .overrun

def repeated (read : List UInt8 → Except Fault (α × List UInt8)) : Nat → List UInt8 → Except Fault (List α × List UInt8)
  | 0, rest => return ([], rest)
  | n + 1, rest => do
    let (a, rest) ← read rest
    let (as, rest) ← repeated read n rest
    return (a :: as, rest)

-- The value at the front of the rest, within the surroundings that begin at the start.
def decode : (t : Shape k) → (start rest : List UInt8) → Except Fault (t.Value × List UInt8)
  | .address, _, rest => do
    let (n, rest) ← takeNat rest
    return (Address.ofNat n, rest)
  | .uint _, _, rest => do
    let (n, rest) ← takeNat rest
    return (Amount.ofNat n, rest)
  | .bool, _, rest => do
    let (n, rest) ← takeNat rest
    return (n != 0, rest)
  | .bytes, start, rest => do
    let (at_, rest) ← follow start rest
    return (← takeBytes at_, rest)
  | .string, start, rest => do
    let (at_, rest) ← follow start rest
    return (Text.utf8Lossy (← takeBytes at_), rest)
  | .array item, start, rest => do
    let (at_, rest) ← follow start rest
    let (n, items) ← takeCount at_
    if items.length / 32 < n * item.words then throw .overrun
    let (xs, _) ← repeated (fun s => decode item items s) n items
    return (xs, rest)
  | .tuple members, start, rest =>
    if members.isDynamic then do
      let (at_, rest) ← follow start rest
      let (v, _) ← decode members at_ at_
      return (v, rest)
    else decode members start rest
  | .nil, _, rest => return ((), rest)
  | .cons first rest, start, data => do
    let (v, data) ← decode first start data
    let (vs, data) ← decode rest start data
    return ((v, vs), data)

def decodeRow (t : Shape .row) (data : List UInt8) : Except Fault t.Value := do
  let (v, _) ← decode t data data
  return v

def Function.decodeResults (f : Function) (data : List UInt8) : Except Fault f.outputs.Value := decodeRow f.outputs data

def Function.decodeCall (f : Function) (data : List UInt8) : Except Fault f.inputs.Value :=
  if data.take 4 = f.selector then decodeRow f.inputs (data.drop 4)
  else .error (.badSelector f.name (data.take 4))

end RouteQuote.Abi
