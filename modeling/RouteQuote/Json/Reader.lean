import RouteQuote.Json.Value
import RouteQuote.Text.Bytes
import RouteQuote.Text.Printing

namespace RouteQuote.Json

inductive Fault where
  | unfinished
  | malformed
  | unfit (message : String)
deriving DecidableEq, Repr

abbrev Reader (α : Type) := StateT (List Char) (Except Fault) α

namespace Reader

def isSpace (c : Char) : Bool := c == ' ' || c == '\n' || c == '\t' || c == '\r'

def skipSpace : Reader Unit := modify (·.dropWhile isSpace)

-- The next character after blanks, which stays in the text.
def peek : Reader (Option Char) := do
  skipSpace
  return (← get).head?

def advance : Reader Unit := modify (·.drop 1)

-- The rest of a literal whose first letter was taken.
def literal : List Char → Reader Unit
  | [] => return ()
  | c :: cs => do
    match ← get with
    | [] => throw .unfinished
    | d :: rest =>
      set rest
      if d = c then literal cs else throw .malformed

-- Four hexadecimal digits; a text of fewer than four bytes ends too soon.
def hexUnit : Reader Nat := do
  match ← get with
  | a :: b :: c :: d :: rest =>
    match Text.hexValue? a, Text.hexValue? b, Text.hexValue? c, Text.hexValue? d with
    | some h, some i, some j, some k =>
      set rest
      return ((h * 16 + i) * 16 + j) * 16 + k
    | _, _, _, _ => throw .malformed
  | rest => if (String.ofList rest).utf8ByteSize < 4 then throw .unfinished else throw .malformed

def isLeading (unit : Nat) : Bool := 0xD800 ≤ unit && unit ≤ 0xDBFF

def isTrailing (unit : Nat) : Bool := 0xDC00 ≤ unit && unit ≤ 0xDFFF

-- The character of a numeric escape: one unit, or a leading unit and an escaped trailing unit.
def escapedUnit : Reader Char := do
  let unit ← hexUnit
  if isTrailing unit then throw .malformed
  if !isLeading unit then return Char.ofNat unit
  match ← get with
  | [] => throw .unfinished
  | '\\' :: [] => throw .unfinished
  | '\\' :: 'u' :: rest =>
    set rest
    let second ← hexUnit
    if !isTrailing second then throw .malformed
    return Char.ofNat ((unit - 0xD800) * 0x400 + (second - 0xDC00) + 0x10000)
  | _ => throw .malformed

def shortEscape? (c : Char) : Option Char :=
  match c with
  | '"' => some '"'
  | '\\' => some '\\'
  | '/' => some '/'
  | 'b' => some '\x08'
  | 'f' => some '\x0c'
  | 'n' => some '\n'
  | 'r' => some '\r'
  | 't' => some '\t'
  | _ => none

-- One step inside a string: the character read, or none at the closing quote.
def stringStep (unit : Reader Char) : Reader (Option Char) := do
  match ← get with
  | [] => throw .unfinished
  | '"' :: rest => set rest; return none
  | '\\' :: [] => throw .unfinished
  | '\\' :: 'u' :: rest => set rest; return some (← unit)
  | '\\' :: c :: rest =>
    match shortEscape? c with
    | some d => set rest; return some d
    | none => throw .malformed
  | c :: rest => if c.toNat < 0x20 then throw .malformed else set rest; return some c

-- The characters up to the closing quote, in at most that many steps.
def stringRest (unit : Reader Char) : Nat → Reader (List Char)
  | 0 => throw .unfinished
  | fuel + 1 => do
    match ← stringStep unit with
    | none => return []
    | some c => return c :: (← stringRest unit fuel)

-- The body of a string whose opening quote was taken.
def stringBody : Reader String := do
  return String.ofList (← stringRest escapedUnit ((← get).length + 1))

-- The body of a string that nobody looks at: its numeric escapes need not be characters.
def skipString : Reader Unit := do
  let _ ← stringRest (do let _ ← hexUnit; return ' ') ((← get).length + 1)

def digits : Reader (List Char) := do
  let s ← get
  set (s.dropWhile Char.isDigit)
  return s.takeWhile Char.isDigit

-- The leading digits whose value stays below 2 ^ 64, and how many were left out.
def significant : List Char → Nat → Nat × Nat
  | [], n => (n, 0)
  | c :: rest, n =>
    let next := 10 * n + (c.toNat - 48)
    if next < UInt64.size then significant rest next else (n, rest.length + 1)

-- The exponent's digits; none when they exceed the range of 32 bits.
def exponentValue (ds : List Char) : Option Nat :=
  let n := ds.foldl (fun n c => 10 * n + (c.toNat - 48)) 0
  if n < Nat.pow 2 31 then some n else none

-- A significand and a power of ten. The power's table ends at 308; below, the value is first divided by
-- 10 ^ 308, and each step rounds.
def scale (x : Binary64) (exponent : Int) : Nat → Option Binary64
  | 0 => some x
  | fuel + 1 =>
    if exponent.natAbs ≤ 308 then do
      let power ← Binary64.ofNat? false (Nat.pow 10 exponent.natAbs)
      if 0 ≤ exponent then x.mul? power else x.div? power
    else if x.isZero then some x
    else if 0 ≤ exponent then none
    else do
      let power ← Binary64.ofNat? false (Nat.pow 10 308)
      scale (← x.div? power) (exponent + 308) fuel

def floatOf (negative : Bool) (significand : Nat) (exponent : Int) : Reader Json := do
  let x := Binary64.ofNat? false significand
  match x.bind fun x => scale x exponent (exponent.natAbs / 308 + 1) with
  | some y => return .float { y with negative }
  | none => throw .malformed

-- What follows the digits of a number: an exponent.
def exponentPart (negative : Bool) (significand : Nat) (exponent : Int) : Reader Json := do
  let down ← match ← get with
    | '+' :: rest => set rest; pure false
    | '-' :: rest => set rest; pure true
    | _ => pure false
  let ds ← digits
  if ds.isEmpty then
    match ← get with
    | [] => throw .unfinished
    | _ => throw .malformed
  match exponentValue ds with
  | some e => floatOf negative significand (if down then exponent - e else exponent + e)
  | none => if significand = 0 || down then return .float (Binary64.zero negative) else throw .malformed

-- What follows the digits of a number: a fraction, perhaps with an exponent.
def fractionPart (negative : Bool) (significand : Nat) (exponent : Int) : Reader Json := do
  let ds ← digits
  if ds.isEmpty then
    match ← get with
    | [] => throw .unfinished
    | _ => throw .malformed
  let (n, left) := significant ds significand
  let exponent := exponent - (ds.length - left : Nat)
  match ← get with
  | c :: rest =>
    if c = 'e' ∨ c = 'E' then set rest; exponentPart negative n exponent
    else floatOf negative n exponent
  | [] => floatOf negative n exponent

-- A number after its sign. An integer beyond 64 bits, and a negative zero, are floating-point.
def number (negative : Bool) : Reader Json := do
  match ← get with
  | [] => throw .unfinished
  | c :: _ =>
    if !c.isDigit then throw .malformed
    let ds ← digits
    if c = '0' ∧ 1 < ds.length then throw .malformed
    let (n, left) := significant ds 0
    match ← get with
    | '.' :: rest => set rest; fractionPart negative n left
    | 'e' :: rest => set rest; exponentPart negative n left
    | 'E' :: rest => set rest; exponentPart negative n left
    | _ =>
      if left ≠ 0 then floatOf negative n left
      else if !negative then return .int n
      else if n = 0 then return .float (Binary64.zero true)
      else if n ≤ Nat.pow 2 63 then return .int (-n)
      else floatOf true n 0

def skipNumber : Reader Unit := do
  let ds ← digits
  if ds.isEmpty || (ds.head? == some '0' && 1 < ds.length) then throw .malformed
  let s ← get
  let s ← match s with
    | '.' :: rest =>
      if (rest.takeWhile Char.isDigit).isEmpty then throw .malformed
      pure (rest.dropWhile Char.isDigit)
    | _ => pure s
  match s with
  | c :: rest =>
    if c = 'e' ∨ c = 'E' then
      let rest := match rest with
        | '+' :: more => more
        | '-' :: more => more
        | _ => rest
      if (rest.takeWhile Char.isDigit).isEmpty then throw .malformed
      set (rest.dropWhile Char.isDigit)
    else set s
  | [] => set s

def opening : Reader Char := do
  match ← peek with
  | none => throw .unfinished
  | some c => return c

mutual

-- Any well-formed value; fuel bounds the values met.
def skipValue : Nat → Reader Unit
  | 0 => throw .unfinished
  | fuel + 1 => do
    let c ← opening
    if c = 'n' then advance; literal ['u', 'l', 'l']
    else if c = 't' then advance; literal ['r', 'u', 'e']
    else if c = 'f' then advance; literal ['a', 'l', 's', 'e']
    else if c = '"' then advance; skipString
    else if c = '-' then advance; skipNumber
    else if c.isDigit then skipNumber
    else if c = '[' then
      advance
      match ← peek with
      | none => throw .unfinished
      | some ']' => advance
      | some _ => skipItems fuel
    else if c = '\x7b' then
      advance
      match ← peek with
      | none => throw .unfinished
      | some '\x7d' => advance
      | some _ => skipMembers fuel
    else throw .malformed

def skipItems : Nat → Reader Unit
  | 0 => throw .unfinished
  | fuel + 1 => do
    skipValue fuel
    match ← peek with
    | none => throw .unfinished
    | some ',' => advance; skipItems fuel
    | some ']' => advance
    | some _ => throw .malformed

def skipMembers : Nat → Reader Unit
  | 0 => throw .unfinished
  | fuel + 1 => do
    match ← peek with
    | none => throw .unfinished
    | some '"' => advance; skipString
    | some _ => throw .malformed
    match ← peek with
    | none => throw .unfinished
    | some ':' => advance
    | some _ => throw .malformed
    skipValue fuel
    match ← peek with
    | none => throw .unfinished
    | some ',' => advance; skipMembers fuel
    | some '\x7d' => advance
    | some _ => throw .malformed

end

def skip : Reader Unit := do skipValue (2 * (← get).length + 2)

-- After an opening bracket: whether an item follows. The bracket that closes stays in the text.
def hasItem (first : Bool) : Reader Bool := do
  match ← peek with
  | none => throw .unfinished
  | some ']' => return false
  | some c =>
    if first then return true
    if c ≠ ',' then throw .malformed
    advance
    match ← peek with
    | none => throw .unfinished
    | some ']' => throw .malformed
    | some _ => return true

-- The bracket that closes an array of which no more items are wanted.
def closeArray : Reader Unit := do
  match ← peek with
  | none => throw .unfinished
  | some ']' => advance
  | some _ => throw .malformed

-- After an opening brace: whether a member follows; its quote is next in the text.
def hasMember (first : Bool) : Reader Bool := do
  match ← peek with
  | none => throw .unfinished
  | some '\x7d' => return false
  | some c =>
    if first then
      if c = '"' then return true else throw .malformed
    if c ≠ ',' then throw .malformed
    advance
    match ← peek with
    | none => throw .unfinished
    | some '"' => return true
    | some _ => throw .malformed

def memberName : Reader String := do
  advance
  stringBody

def colon : Reader Unit := do
  match ← peek with
  | none => throw .unfinished
  | some ':' => advance
  | some _ => throw .malformed

def items (item : Reader α) (first : Bool) : Nat → Reader (List α)
  | 0 => throw .unfinished
  | fuel + 1 => do
    if ← hasItem first then
      let a ← item
      return a :: (← items item false fuel)
    else
      advance
      return []

def whole (value : Reader α) (s : String) : Except Fault α :=
  match value s.toList with
  | .error fault => .error fault
  | .ok (a, rest) => if rest.all isSpace then .ok a else .error .malformed

def members (item : Reader α) (first : Bool) : Nat → Reader (List (String × α))
  | 0 => throw .unfinished
  | fuel + 1 => do
    if ← hasMember first then
      let name ← memberName
      colon
      let a ← item
      return (name, a) :: (← members item false fuel)
    else
      advance
      return []

-- Any value whose arrays and objects nest to less than a given depth.
def value : Nat → Reader Json
  | 0 => throw .malformed
  | depth + 1 => do
    let c ← opening
    if c = 'n' then advance; literal ['u', 'l', 'l']; return .null
    else if c = 't' then advance; literal ['r', 'u', 'e']; return .bool true
    else if c = 'f' then advance; literal ['a', 'l', 's', 'e']; return .bool false
    else if c = '"' then advance; return .string (← stringBody)
    else if c = '-' then advance; number true
    else if c.isDigit then number false
    else if c = '[' ∧ depth ≠ 0 then
      advance
      return .array (← items (value depth) true ((← get).length + 1))
    else if c = '\x7b' ∧ depth ≠ 0 then
      advance
      return .object (← members (value depth) true ((← get).length + 1))
    else throw .malformed

end Reader

-- The value of a JSON text; arrays and objects nest to less than 128 levels.
def parse (s : String) : Except Fault Json := Reader.whole (Reader.value 128) s

end RouteQuote.Json
