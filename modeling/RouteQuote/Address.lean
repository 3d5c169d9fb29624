import RouteQuote.Hash.Keccak
import RouteQuote.Text.Bytes

namespace RouteQuote

abbrev Address.size : Nat := 1461501637330902918203684832716283019655932542976

theorem Address.size_eq_pow : Address.size = Nat.pow 2 160 := rfl

structure Address where
  value : Fin Address.size
deriving DecidableEq, Repr

namespace Address

def ofNat (n : Nat) : Address := ⟨Fin.ofNat Address.size n⟩

def zero : Address := ofNat 0

-- Stands for a chain's native coin where a token address is wanted.
def sentinel : Address := ofNat 0xEeeeeEeeeEeEeeEeEeEeeEEEeeeeEeeeeeeeEEeE

-- The last so many bytes of a number, the most significant first.
def bytesOfNat : Nat → Nat → List UInt8
  | 0, _ => []
  | count + 1, n => bytesOfNat count (n / 256) ++ [UInt8.ofNat n]

def natOfBytes (bytes : List UInt8) : Nat := bytes.foldl (fun n b => 256 * n + b.toNat) 0

def bytes (a : Address) : List UInt8 := bytesOfNat 20 a.value.val

def digits (a : Address) : List Char := Text.hexOfBytes a.bytes

def text (a : Address) : String := String.ofList ('0' :: 'x' :: a.digits)

def ofBytes (bytes : List UInt8) : Address := ofNat (natOfBytes bytes)

inductive Fault where
  | oddDigits
  | badLength
  | badCharacter (byte : UInt8) (position : Nat)
deriving DecidableEq, Repr

def Fault.message : Fault → String
  | .oddDigits => "odd number of digits"
  | .badLength => "invalid string length"
  | .badCharacter byte position => s!"invalid character '{Char.ofNat byte.toNat}' at position {position}"

-- The first byte that is no hexadecimal digit, with its position.
def badDigit? : Nat → List UInt8 → Option (UInt8 × Nat)
  | _, [] => none
  | i, b :: rest => if (Text.hexValue? (Char.ofNat b.toNat)).isSome then badDigit? (i + 1) rest else some (b, i)

-- One mark may stand before the digits. Letters count in either case, whatever their checksum.
def read (s : List Char) : Except Fault Address :=
  if (Text.utf8Bytes (String.ofList s)).length % 2 = 1 then .error .oddDigits
  else
    let digits := Text.withoutHexMark s
    let bytes := Text.utf8Bytes (String.ofList digits)
    if bytes.length ≠ 40 then .error .badLength
    else match badDigit? 0 bytes with
      | some (byte, position) => .error (.badCharacter byte position)
      | none => .ok (ofBytes ((Text.bytesOfHex? digits).getD []))

end Address

end RouteQuote

namespace RouteQuote.Address

def checksumText (a : Address) : String :=
  let hash := Text.hexOfBytes (Hash.keccak256 (Text.utf8Bytes (String.ofList a.digits)))
  let mixed := List.zipWith (fun c h => if 8 ≤ (Text.hexValue? h).getD 0 then c.toUpper else c) a.digits hash
  String.ofList ('0' :: 'x' :: mixed)

end RouteQuote.Address
