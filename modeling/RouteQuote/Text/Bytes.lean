namespace RouteQuote.Text

def hexDigit (n : Nat) : Char := Char.ofNat (if n < 10 then 48 + n else 87 + n)

def hexValue? (c : Char) : Option Nat :=
  if '0' ≤ c ∧ c ≤ '9' then some (c.toNat - 48)
  else if 'a' ≤ c ∧ c ≤ 'f' then some (c.toNat - 87)
  else if 'A' ≤ c ∧ c ≤ 'F' then some (c.toNat - 55)
  else none

def hexOfByte (b : UInt8) : List Char := [hexDigit (b.toNat / 16), hexDigit (b.toNat % 16)]

def hexOfBytes (bytes : List UInt8) : List Char := bytes.flatMap hexOfByte

def bytesOfHex? : List Char → Option (List UInt8)
  | [] => some []
  | [_] => none
  | high :: low :: rest => do
    let h ← hexValue? high
    let l ← hexValue? low
    let bytes ← bytesOfHex? rest
    return UInt8.ofNat (16 * h + l) :: bytes

theorem hexValue?_range {c : Char} {d : Nat} (known : hexValue? c = some d) :
    (48 ≤ c.toNat ∧ c.toNat ≤ 57 ∧ d = c.toNat - 48) ∨ (97 ≤ c.toNat ∧ c.toNat ≤ 102 ∧ d = c.toNat - 87) ∨
      65 ≤ c.toNat ∧ c.toNat ≤ 70 ∧ d = c.toNat - 55 := by
  unfold hexValue? at known
  split at known
  · rename_i figure
    cases known
    exact .inl ⟨figure.1, figure.2, rfl⟩
  split at known
  · rename_i small
    cases known
    exact .inr (.inl ⟨small.1, small.2, rfl⟩)
  split at known
  · rename_i capital
    cases known
    exact .inr (.inr ⟨capital.1, capital.2, rfl⟩)
  · cases known

theorem hexValue?_ascii {c : Char} {d : Nat} (known : hexValue? c = some d) : c.toNat < 0x80 := by
  have range := hexValue?_range known
  omega

theorem hexValue?_hexDigit (n : Nat) (h : n < 16) : hexValue? (hexDigit n) = some n := by
  have table : ∀ k : Fin 16, hexValue? (hexDigit k) = some k.val := by decide
  exact table ⟨n, h⟩

-- The two digits of a byte, and the byte they make up.
theorem hexOfByte_values (b : UInt8) : hexValue? (hexDigit (b.toNat / 16)) = some (b.toNat / 16) ∧
    hexValue? (hexDigit (b.toNat % 16)) = some (b.toNat % 16) ∧
    UInt8.ofNat (16 * (b.toNat / 16) + b.toNat % 16) = b := by
  have high : b.toNat / 16 < 16 := by have := b.toNat_lt; omega
  have low : b.toNat % 16 < 16 := Nat.mod_lt _ (by decide)
  refine ⟨hexValue?_hexDigit _ high, hexValue?_hexDigit _ low, ?_⟩
  rw [Nat.div_add_mod]
  exact UInt8.ofNat_toNat

theorem bytesOfHex?_hexOfBytes (bytes : List UInt8) : bytesOfHex? (hexOfBytes bytes) = some bytes := by
  induction bytes with
  | nil => rfl
  | cons b rest ih =>
    obtain ⟨high, low, joined⟩ := hexOfByte_values b
    simp only [hexOfBytes, List.flatMap_cons, hexOfByte, List.cons_append, List.nil_append] at ih ⊢
    simp [bytesOfHex?, high, low, ih]
    simpa using joined

-- One mark, zero and an x in either case, is taken off the front.
def withoutHexMark : List Char → List Char
  | '0' :: 'x' :: rest => rest
  | '0' :: 'X' :: rest => rest
  | s => s

def hasHexMark : List Char → Bool
  | '0' :: 'x' :: _ => true
  | '0' :: 'X' :: _ => true
  | _ => false

def percentDecode : List UInt8 → List UInt8
  | 0x25 :: h :: l :: rest =>
    match hexValue? (Char.ofNat h.toNat), hexValue? (Char.ofNat l.toNat) with
    | some high, some low => UInt8.ofNat (16 * high + low) :: percentDecode rest
    | _, _ => 0x25 :: percentDecode (h :: l :: rest)
  | b :: rest => b :: percentDecode rest
  | [] => []

def utf8Bytes (s : String) : List UInt8 := s.toUTF8.toList

def replacement : Char := Char.ofNat 0xFFFD

-- How many bytes follow a lead byte, what it contributes, and the range of the byte after it.
def leadByte? (b : Nat) : Option (Nat × Nat × Nat × Nat) :=
  if 0xC2 ≤ b ∧ b ≤ 0xDF then some (1, b - 0xC0, 0x80, 0xBF)
  else if b = 0xE0 then some (2, 0, 0xA0, 0xBF)
  else if (0xE1 ≤ b ∧ b ≤ 0xEC) ∨ b = 0xEE ∨ b = 0xEF then some (2, b - 0xE0, 0x80, 0xBF)
  else if b = 0xED then some (2, 0xD, 0x80, 0x9F)
  else if b = 0xF0 then some (3, 0, 0x90, 0xBF)
  else if 0xF1 ≤ b ∧ b ≤ 0xF3 then some (3, b - 0xF0, 0x80, 0xBF)
  else if b = 0xF4 then some (3, 4, 0x80, 0x8F)
  else none

-- The state inside a sequence: bytes still to come, the value so far, the range of the next byte.
structure Sequence where
  missing : Nat
  value : Nat
  low : Nat
  high : Nat

-- The characters of a byte string, with what an unfinished sequence before it left open.
def decodeFrom : Option Sequence → List UInt8 → List Char
  | none, [] => []
  | some _, [] => [replacement]
  | state, b :: rest =>
    let n := b.toNat
    let start (keep : List Char) : List Char :=
      if n < 0x80 then keep ++ Char.ofNat n :: decodeFrom none rest
      else match leadByte? n with
        | some (missing, value, low, high) => keep ++ decodeFrom (some ⟨missing, value, low, high⟩) rest
        | none => keep ++ replacement :: decodeFrom none rest
    match state with
    | none => start []
    | some sequence =>
      if sequence.low ≤ n ∧ n ≤ sequence.high then
        let value := 64 * sequence.value + (n - 0x80)
        if sequence.missing = 1 then Char.ofNat value :: decodeFrom none rest
        else decodeFrom (some ⟨sequence.missing - 1, value, 0x80, 0xBF⟩) rest
      else start [replacement]

def utf8Lossy (bytes : List UInt8) : String := String.ofList (decodeFrom none bytes)

-- The text of a well-formed byte string.
def utf8? (bytes : List UInt8) : Option String :=
  let s := utf8Lossy bytes
  if utf8Bytes s = bytes then some s else none

end RouteQuote.Text
