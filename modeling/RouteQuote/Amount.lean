import RouteQuote.Text.Bytes

namespace RouteQuote

abbrev Amount.size : Nat := 115792089237316195423570985008687907853269984665640564039457584007913129639936

theorem Amount.size_eq_pow : Amount.size = Nat.pow 2 256 := rfl

abbrev Amount := Fin Amount.size

namespace Amount

def zero : Amount := ⟨0, by decide⟩

-- Numbers that are too large wrap around.
def ofNat (n : Nat) : Amount := ⟨n % size, Nat.mod_lt n (by decide)⟩

def ofWord (w : UInt64) : Amount := ⟨w.toNat, Nat.lt_trans w.toNat_lt (by decide)⟩

def text (a : Amount) : String := toString a.val

def ofNat? (n : Nat) : Option Amount := if h : n < size then some ⟨n, h⟩ else none

end Amount

abbrev ChainId := UInt64

end RouteQuote

namespace RouteQuote.Amount

inductive Radix where
  | binary
  | octal
  | decimal
  | hexadecimal
deriving DecidableEq, Repr

inductive RadixFault where
  | invalidDigit (byte : UInt8)
  | tooLarge
deriving DecidableEq, Repr

def RadixFault.message : RadixFault → String
  | .invalidDigit byte => "invalid digit: " ++ String.ofList [Char.ofNat byte.toNat]
  | .tooLarge => "the value is too large to fit the target type"

def underscore : UInt8 := 0x5F

def digitOfByte? (b : UInt8) : Option Nat :=
  let n := b.toNat
  if 48 ≤ n ∧ n ≤ 57 then some (n - 48)
  else if 97 ≤ n ∧ n ≤ 122 then some (n - 87)
  else if 65 ≤ n ∧ n ≤ 90 then some (n - 55)
  else none

def digitBelow (radix : Nat) (b : UInt8) : Except RadixFault Nat :=
  match digitOfByte? b with
  | some d => if d < radix then .ok d else .error (.invalidDigit b)
  | none => .error (.invalidDigit b)

def bounded (n : Nat) : Except RadixFault Nat := if n < size then .ok n else .error .tooLarge

def groupSize : Nat := 19

-- Reads on from a value and a group of so many digits.
def decimalFrom (value group count : Nat) : List UInt8 → Except RadixFault Nat
  | [] => if count = 0 then .ok value else bounded (value * Nat.pow 10 count + group)
  | b :: rest =>
    if b = underscore then decimalFrom value group count rest
    else do
      let d ← digitBelow 10 b
      if count + 1 = groupSize then
        let value ← bounded (value * Nat.pow 10 groupSize + (10 * group + d))
        decimalFrom value 0 0 rest
      else decimalFrom value (10 * group + d) (count + 1) rest

-- Reads on, to the left, from a value that fills so many bits.
def binaryFrom (digitBits value bits : Nat) : List UInt8 → Except RadixFault Nat
  | [] => .ok value
  | b :: rest =>
    if b = underscore then binaryFrom digitBits value bits rest
    else do
      let d ← digitBelow (Nat.pow 2 digitBits) b
      let value ← if d = 0 then .ok value else bounded (value + d * Nat.pow 2 bits)
      binaryFrom digitBits value (bits + digitBits) rest

def readNat (radix : Radix) (digits : List UInt8) : Except RadixFault Nat :=
  match radix with
  | .binary => binaryFrom 1 0 0 digits.reverse
  | .octal => binaryFrom 3 0 0 digits.reverse
  | .decimal => decimalFrom 0 0 0 digits
  | .hexadecimal => binaryFrom 4 0 0 digits.reverse

def read (radix : Radix) (digits : List UInt8) : Except RadixFault Amount := do
  let n ← readNat radix digits
  if h : n < size then .ok ⟨n, h⟩ else .error .tooLarge

def bytesOf (s : List Char) : List UInt8 := Text.utf8Bytes (String.ofList s)

-- A numeral that is hexadecimal behind its mark and decimal without one.
def readMarked (s : List Char) : Except RadixFault Amount :=
  if Text.hasHexMark s then read .hexadecimal (bytesOf (Text.withoutHexMark s)) else read .decimal (bytesOf s)

-- A numeral whose first two characters may choose any of the four radices.
def readAnyRadix (s : List Char) : Except RadixFault Amount :=
  match s with
  | '0' :: mark :: rest =>
    if mark = 'x' ∨ mark = 'X' then read .hexadecimal (bytesOf rest)
    else if mark = 'o' ∨ mark = 'O' then read .octal (bytesOf rest)
    else if mark = 'b' ∨ mark = 'B' then read .binary (bytesOf rest)
    else read .decimal (bytesOf s)
  | _ => read .decimal (bytesOf s)

end RouteQuote.Amount
