import Mathlib.Data.List.Induction
import RouteQuote.Abi.Codec

namespace RouteQuote

theorem Address.length_bytesOfNat (count n : Nat) : (bytesOfNat count n).length = count := by
  induction count generalizing n with
  | zero => rfl
  | succ count ih => simp [bytesOfNat, ih]

theorem Address.natOfBytes_append (bytes : List UInt8) (b : UInt8) :
    natOfBytes (bytes ++ [b]) = 256 * natOfBytes bytes + b.toNat := by
  simp [natOfBytes]

theorem Address.natOfBytes_bytesOfNat (count n : Nat) : natOfBytes (bytesOfNat count n) = n % Nat.pow 256 count := by
  induction count generalizing n with
  | zero => exact (Nat.mod_one n).symm
  | succ count ih =>
    have last : (UInt8.ofNat n).toNat = n % 256 := rfl
    have power : Nat.pow 256 (count + 1) = 256 * Nat.pow 256 count := Nat.mul_comm _ _
    rw [bytesOfNat, natOfBytes_append, ih, last, power, Nat.mod_mul]
    exact Nat.add_comm _ _

theorem Address.natOfBytes_lt (bytes : List UInt8) : natOfBytes bytes < Nat.pow 256 bytes.length := by
  induction bytes using List.reverseRecOn with
  | nil => exact Nat.one_pos
  | append_singleton bytes b ih =>
    have bound := b.toNat_lt
    have power : Nat.pow 256 (bytes.length + 1) = 256 * Nat.pow 256 bytes.length := Nat.mul_comm _ _
    rw [natOfBytes_append, List.length_append, List.length_singleton, power]
    omega

theorem Address.bytesOfNat_natOfBytes (bytes : List UInt8) : bytesOfNat bytes.length (natOfBytes bytes) = bytes := by
  induction bytes using List.reverseRecOn with
  | nil => rfl
  | append_singleton bytes b ih =>
    have bound := b.toNat_lt
    have front : (256 * natOfBytes bytes + b.toNat) / 256 = natOfBytes bytes := by omega
    have last : UInt8.ofNat (256 * natOfBytes bytes + b.toNat) = b := by
      apply UInt8.toNat.inj
      have value : (UInt8.ofNat (256 * natOfBytes bytes + b.toNat)).toNat = (256 * natOfBytes bytes + b.toNat) % 256 := rfl
      rw [value]
      omega
    rw [natOfBytes_append, List.length_append, List.length_singleton, bytesOfNat, front, last, ih]

-- The byte at each position, counted from the most significant one.
theorem Address.bytesOfNat_positions (count n : Nat) :
    bytesOfNat count n = (List.range count).map fun i => UInt8.ofNat (n / Nat.pow 256 (count - 1 - i)) := by
  induction count generalizing n with
  | zero => rfl
  | succ count ih =>
    have last : UInt8.ofNat (n / Nat.pow 256 (count + 1 - 1 - count)) = UInt8.ofNat n := by
      rw [Nat.add_sub_cancel, Nat.sub_self]
      exact congrArg UInt8.ofNat (Nat.div_one n)
    have before : ∀ i ∈ List.range count, UInt8.ofNat (n / 256 / Nat.pow 256 (count - 1 - i)) =
        UInt8.ofNat (n / Nat.pow 256 (count + 1 - 1 - i)) := by
      intro i member
      have below := List.mem_range.mp member
      have next : count + 1 - 1 - i = count - 1 - i + 1 := by omega
      rw [next, Nat.div_div_eq_div_mul, Nat.mul_comm]
      rfl
    rw [bytesOfNat, ih, List.range_succ, List.map_append, List.map_congr_left before, List.map_singleton, last]

theorem Address.bytesOfNat_add (high low n : Nat) :
    bytesOfNat (high + low) n = bytesOfNat high (n / Nat.pow 256 low) ++ bytesOfNat low n := by
  induction low generalizing n with
  | zero =>
    have whole : n / Nat.pow 256 0 = n := Nat.div_one n
    rw [whole, bytesOfNat, List.append_nil, Nat.add_zero]
  | succ low ih =>
    have power : n / Nat.pow 256 (low + 1) = n / 256 / Nat.pow 256 low := by
      rw [Nat.div_div_eq_div_mul, Nat.mul_comm]
      rfl
    rw [← Nat.add_assoc, bytesOfNat, ih, power, List.append_assoc]
    rfl

namespace Abi

theorem length_word (n : Nat) : (word n).length = 32 := Address.length_bytesOfNat 32 n

theorem word_natOfBytes {w : List UInt8} (full : w.length = 32) : word (Address.natOfBytes w) = w := by
  have back := Address.bytesOfNat_natOfBytes w
  rwa [full] at back

theorem takeWord_append {w : List UInt8} (full : w.length = 32) (rest : List UInt8) :
    takeWord (w ++ rest) = .ok (w, rest) := by
  have front : (w ++ rest).take 32 = w := List.take_left' full
  have back : (w ++ rest).drop 32 = rest := List.drop_left' full
  simp only [takeWord, front, back, if_pos full]

theorem takeNat_word {n : Nat} (fits : n < Amount.size) (rest : List UInt8) :
    takeNat (word n ++ rest) = .ok (n, rest) := by
  have value : Address.natOfBytes (word n) = n := (Address.natOfBytes_bytesOfNat 32 n).trans (Nat.mod_eq_of_lt fits)
  rw [takeNat, takeWord_append (length_word n)]
  simp only [bind, Except.bind, pure, Except.pure, value]

theorem takeCount_word {n : Nat} (fits : n < UInt64.size) (rest : List UInt8) :
    takeCount (word n ++ rest) = .ok (n, rest) := by
  have below : n < Amount.size := Nat.lt_trans fits (by decide)
  have value : Address.natOfBytes (word n) = n := (Address.natOfBytes_bytesOfNat 32 n).trans (Nat.mod_eq_of_lt below)
  rw [takeCount, takeWord_append (length_word n)]
  simp only [bind, Except.bind, value, if_pos fits]
  rfl

theorem follow_word {offset : Nat} {start : List UInt8} (fits : offset < UInt64.size) (inside : offset ≤ start.length)
    (rest : List UInt8) : follow start (word offset ++ rest) = .ok (start.drop offset, rest) := by
  rw [follow, takeCount_word fits]
  simp only [bind, Except.bind, if_pos inside]
  rfl

-- A number as contracts read it: the byte at each of 32 positions, the most significant first.
def integerWord (n : Nat) : List UInt8 := (List.range 32).map fun i => UInt8.ofNat (n / Nat.pow 256 (31 - i))

-- An address as contracts read it: its twenty bytes at the end of a word.
def addressWord (a : Address) : List UInt8 := List.replicate 12 0 ++ a.bytes

theorem word_integer (n : Nat) : word n = integerWord n := Address.bytesOfNat_positions 32 n

theorem word_address (a : Address) : word a.value.val = addressWord a := by
  have fits : a.value.val / Nat.pow 256 20 = 0 := Nat.div_eq_of_lt a.value.isLt
  have split := Address.bytesOfNat_add 12 20 a.value.val
  rw [fits] at split
  exact split

theorem length_integerWord (n : Nat) : (integerWord n).length = 32 := by rw [← word_integer, length_word]

theorem length_addressWord (a : Address) : (addressWord a).length = 32 := by rw [← word_address, length_word]

theorem le_paddedLength (n : Nat) : n ≤ paddedLength n := by
  rw [paddedLength]
  omega

theorem paddedLength_lt (n : Nat) : paddedLength n < n + 32 := by
  rw [paddedLength]
  omega

theorem dvd_paddedLength (n : Nat) : 32 ∣ paddedLength n := Nat.dvd_mul_left 32 _

theorem length_padded (bytes : List UInt8) : (padded bytes).length = paddedLength bytes.length := by
  have := le_paddedLength bytes.length
  rw [padded, List.length_append, List.length_replicate]
  omega

theorem takeBytes_padded {bytes : List UInt8} (fits : bytes.length < UInt64.size) (rest : List UInt8) :
    takeBytes (word bytes.length ++ padded bytes ++ rest) = .ok bytes := by
  have front : (padded bytes ++ rest).take bytes.length = bytes := by
    rw [padded, List.append_assoc]
    exact List.take_left' rfl
  have inside : bytes.length ≤ (padded bytes ++ rest).length := by
    have := le_paddedLength bytes.length
    rw [List.length_append, length_padded]
    omega
  rw [List.append_assoc, takeBytes, takeCount_word fits]
  simp only [bind, Except.bind, if_pos inside, front]
  rfl

end Abi

end RouteQuote
