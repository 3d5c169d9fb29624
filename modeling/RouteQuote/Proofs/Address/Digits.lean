import RouteQuote.Proofs.Abi.RoundTrip
import RouteQuote.Text.Basic

namespace RouteQuote

namespace Text

-- Outside ASCII no letter changes its case.
theorem hexValue?_toLower (c : Char) : hexValue? c.toLower = hexValue? c := by
  by_cases ascii : c.toNat < 0x80
  · have table : ∀ k : Fin 128, hexValue? (Char.ofNat k.val).toLower = hexValue? (Char.ofNat k.val) := by decide
    have known := table ⟨c.toNat, ascii⟩
    rwa [Char.ofNat_toNat] at known
  · have kept : c.toLower = c := by
      unfold Char.toLower
      rw [dif_neg]
      intro ⟨_, high⟩
      have high : c.toNat ≤ 90 := high
      omega
    rw [kept]

theorem hexDigit_of_hexValue? {c : Char} {d : Nat} (known : hexValue? c = some d) : hexDigit d = c.toLower := by
  have table : ∀ k : Fin 128,
      (hexValue? (Char.ofNat k.val)).all fun d => hexDigit d == (Char.ofNat k.val).toLower := by decide
  have lower := table ⟨c.toNat, hexValue?_ascii known⟩
  rw [Char.ofNat_toNat, known] at lower
  exact eq_of_beq lower

theorem mem_hexOfBytes {bytes : List UInt8} {c : Char} (member : c ∈ hexOfBytes bytes) : ∃ n, n < 16 ∧ c = hexDigit n := by
  obtain ⟨b, _, digit⟩ := List.mem_flatMap.mp member
  have bound := b.toNat_lt
  simp only [hexOfByte, List.mem_cons, List.not_mem_nil, or_false] at digit
  rcases digit with rfl | rfl
  · exact ⟨b.toNat / 16, by omega, rfl⟩
  · exact ⟨b.toNat % 16, by omega, rfl⟩

theorem length_hexOfBytes (bytes : List UInt8) : (hexOfBytes bytes).length = 2 * bytes.length := by
  induction bytes with
  | nil => rfl
  | cons b bytes ih =>
    simp only [hexOfBytes, List.flatMap_cons, hexOfByte, List.length_append, List.length_cons, List.length_nil] at ih ⊢
    omega

-- Digits that make up bytes are, in lower case, what is written for these bytes.
theorem hexOfBytes_of_bytesOfHex? {s : List Char} {bytes : List UInt8} (read : bytesOfHex? s = some bytes) :
    hexOfBytes bytes = asciiLower s := by
  fun_induction bytesOfHex? s generalizing bytes with
  | case1 =>
    cases read
    rfl
  | case2 => cases read
  | case3 high low rest ih =>
    obtain ⟨h, highKnown, read⟩ := Option.bind_eq_some_iff.mp read
    obtain ⟨l, lowKnown, read⟩ := Option.bind_eq_some_iff.mp read
    obtain ⟨behind, restRead, made⟩ := Option.bind_eq_some_iff.mp read
    cases made
    have highSmall := hexValue?_range highKnown
    have lowSmall := hexValue?_range lowKnown
    have byte : (UInt8.ofNat (16 * h + l)).toNat = 16 * h + l := toNat_ofNat (by omega)
    have front : (16 * h + l) / 16 = h := by omega
    have back : (16 * h + l) % 16 = l := by omega
    have rest := ih restRead
    simp only [hexOfBytes, asciiLower] at rest
    simp only [hexOfBytes, asciiLower, List.flatMap_cons, hexOfByte, byte, front, back, hexDigit_of_hexValue? highKnown,
      hexDigit_of_hexValue? lowKnown, rest, List.map_cons, List.cons_append, List.nil_append]

theorem bytesOfHex?_asciiLower (s : List Char) : bytesOfHex? (asciiLower s) = bytesOfHex? s := by
  fun_induction bytesOfHex? s with
  | case1 => rfl
  | case2 => rfl
  | case3 high low rest ih =>
    simp only [asciiLower] at ih
    simp only [asciiLower, List.map_cons, bytesOfHex?, hexValue?_toLower, ih]

theorem bytesOfHex?_digits {s : List Char} {n : Nat} (even : s.length = 2 * n)
    (digits : ∀ c ∈ s, (hexValue? c).isSome = true) : ∃ bytes, bytesOfHex? s = some bytes ∧ bytes.length = n := by
  fun_induction bytesOfHex? s generalizing n with
  | case1 =>
    have nothing : 0 = 2 * n := even
    exact ⟨[], rfl, by rw [List.length_nil]; omega⟩
  | case2 =>
    have odd : 1 = 2 * n := even
    omega
  | case3 high low rest ih =>
    obtain ⟨highDigit, behind⟩ := List.forall_mem_cons.mp digits
    obtain ⟨lowDigit, restDigits⟩ := List.forall_mem_cons.mp behind
    obtain ⟨h, highKnown⟩ := Option.isSome_iff_exists.mp highDigit
    obtain ⟨l, lowKnown⟩ := Option.isSome_iff_exists.mp lowDigit
    have length : rest.length + 2 = 2 * n := even
    obtain ⟨bytes, read, count⟩ := ih (n := n - 1) (by omega) restDigits
    refine ⟨UInt8.ofNat (16 * h + l) :: bytes, ?_, ?_⟩
    · simp [highKnown, lowKnown, read]
    · rw [List.length_cons, count]
      omega

theorem withoutHexMark_cases (s : List Char) :
    withoutHexMark s = s ∨ ∃ mark, (mark = 'x' ∨ mark = 'X') ∧ s = '0' :: mark :: withoutHexMark s := by
  unfold withoutHexMark
  split
  · exact .inr ⟨'x', .inl rfl, rfl⟩
  · exact .inr ⟨'X', .inr rfl, rfl⟩
  · exact .inl rfl

end Text

namespace Address

-- By induction on the number of bytes, the first byte deciding before the rest.
theorem bytesOfNat_lt (count m n : Nat) :
    bytesOfNat count m < bytesOfNat count n ↔ m % Nat.pow 256 count < n % Nat.pow 256 count := by
  induction count with
  | zero =>
    have same : m % Nat.pow 256 0 = n % Nat.pow 256 0 := (Nat.mod_one m).trans (Nat.mod_one n).symm
    rw [bytesOfNat, bytesOfNat, same]
    exact iff_of_false (List.lt_irrefl []) (Nat.lt_irrefl _)
  | succ count ih =>
    have first : ∀ k, bytesOfNat (count + 1) k = UInt8.ofNat (k / Nat.pow 256 count) :: bytesOfNat count k := by
      intro k
      rw [Nat.add_comm, bytesOfNat_add]
      rfl
    have value : ∀ k, (UInt8.ofNat (k / Nat.pow 256 count)).toNat = k / Nat.pow 256 count % 256 := fun _ => rfl
    have power : Nat.pow 256 (count + 1) = Nat.pow 256 count * 256 := rfl
    rw [first, first, List.cons_lt_cons_iff, ih, UInt8.lt_iff_toNat_lt, ← UInt8.toNat_inj, value, value, power,
      Nat.mod_mul, Nat.mod_mul]
    have positive : 0 < Nat.pow 256 count := Nat.pow_pos (by decide)
    have low := Nat.mod_lt m positive
    have lowOther := Nat.mod_lt n positive
    generalize m / Nat.pow 256 count % 256 = high
    generalize n / Nat.pow 256 count % 256 = highOther
    generalize m % Nat.pow 256 count = rest at low ⊢
    generalize n % Nat.pow 256 count = restOther at lowOther ⊢
    generalize Nat.pow 256 count = size at low lowOther
    rcases Nat.lt_trichotomy high highOther with less | rfl | more
    · have gap : size * (high + 1) ≤ size * highOther := Nat.mul_le_mul_left size less
      rw [Nat.mul_succ] at gap
      exact ⟨fun _ => by omega, fun _ => .inl less⟩
    · simp
    · have gap : size * (highOther + 1) ≤ size * high := Nat.mul_le_mul_left size more
      rw [Nat.mul_succ] at gap
      omega

-- Addresses are in order as numbers just when their bytes are.
theorem bytes_lt {a b : Address} : a.bytes < b.bytes ↔ a.value < b.value := by
  have left : a.value.val % Nat.pow 256 20 = a.value.val := Nat.mod_eq_of_lt a.value.isLt
  have right : b.value.val % Nat.pow 256 20 = b.value.val := Nat.mod_eq_of_lt b.value.isLt
  rw [bytes, bytes, bytesOfNat_lt, left, right]
  rfl

theorem badDigit?_eq_none {position : Nat} {bytes : List UInt8} :
    badDigit? position bytes = none ↔ ∀ b ∈ bytes, (Text.hexValue? (Char.ofNat b.toNat)).isSome = true := by
  induction bytes generalizing position with
  | nil => simp [badDigit?]
  | cons b bytes ih =>
    rw [badDigit?, List.forall_mem_cons]
    split
    · rename_i digit
      rw [ih]
      exact (and_iff_right digit).symm
    · rename_i other
      simp [other]

-- No byte of a character outside ASCII is a digit, so that where all bytes are digits all characters are.
theorem digits_of_bytes {s : List Char} (digits : badDigit? 0 (Text.utf8Bytes (String.ofList s)) = none) :
    ∀ c ∈ s, (Text.hexValue? c).isSome = true := by
  rw [badDigit?_eq_none, Text.utf8Bytes_eq, String.toList_ofList] at digits
  intro c member
  have encoded : ∀ b ∈ String.utf8EncodeChar c, (Text.hexValue? (Char.ofNat b.toNat)).isSome = true :=
    fun b inside => digits b (List.mem_flatMap.mpr ⟨c, member, inside⟩)
  by_cases ascii : c.toNat < 0x80
  · rw [Text.utf8EncodeChar_ascii ascii] at encoded
    have digit := encoded _ (List.mem_singleton.mpr rfl)
    rwa [Text.toNat_ofNat (by omega), Char.ofNat_toNat] at digit
  · obtain ⟨b, rest, split⟩ : ∃ b rest, String.utf8EncodeChar c = b :: rest :=
      List.exists_cons_of_ne_nil String.utf8EncodeChar_ne_nil
    have inside : b ∈ String.utf8EncodeChar c := split ▸ List.mem_cons_self
    obtain ⟨d, known⟩ := Option.isSome_iff_exists.mp (encoded b inside)
    have narrow := Text.hexValue?_ascii known
    have wide := Text.utf8EncodeChar_wide (Nat.le_of_not_lt ascii) b inside
    have bound := b.toNat_lt
    have valid : b.toNat.isValidChar := .inl (by omega)
    have same : (Char.ofNat b.toNat).toNat = b.toNat := by
      rw [Char.ofNat, dif_pos valid]
      rfl
    omega

theorem ascii_of_digits {s : List Char} (digits : ∀ c ∈ s, (Text.hexValue? c).isSome = true) : ∀ c ∈ s, c.toNat < 0x80 := by
  intro c member
  obtain ⟨d, known⟩ := Option.isSome_iff_exists.mp (digits c member)
  exact Text.hexValue?_ascii known

-- A mark has two characters, so that the digits behind it are odd in number just when all are.
theorem length_marked {s : List Char} (ascii : ∀ c ∈ Text.withoutHexMark s, c.toNat < 0x80) :
    (Text.utf8Bytes (String.ofList s)).length % 2 = (Text.withoutHexMark s).length % 2 := by
  rcases Text.withoutHexMark_cases s with same | ⟨mark, known, same⟩
  · rw [same] at ascii ⊢
    rw [Text.utf8Bytes_ascii ascii, List.length_map]
  · have small : mark.toNat < 0x80 := by rcases known with rfl | rfl <;> decide
    have all : ∀ c ∈ '0' :: mark :: Text.withoutHexMark s, c.toNat < 0x80 :=
      List.forall_mem_cons.mpr ⟨by decide, List.forall_mem_cons.mpr ⟨small, ascii⟩⟩
    rw [← same] at all
    rw [Text.utf8Bytes_ascii all, List.length_map]
    have count := congrArg List.length same
    simp only [List.length_cons] at count
    omega

theorem length_digits (a : Address) : a.digits.length = 40 := by
  rw [digits, Text.length_hexOfBytes, bytes, length_bytesOfNat]

theorem ofBytes_bytes (a : Address) : ofBytes a.bytes = a := by
  have whole : natOfBytes a.bytes = a.value.val :=
    (natOfBytes_bytesOfNat 20 a.value.val).trans (Nat.mod_eq_of_lt a.value.isLt)
  rw [ofBytes, whole, Abi.ofNat_address]

theorem bytes_ofBytes {bytes : List UInt8} (twenty : bytes.length = 20) : (ofBytes bytes).bytes = bytes := by
  have small : natOfBytes bytes < Address.size := by
    have bound := natOfBytes_lt bytes
    rwa [twenty] at bound
  have value : (ofBytes bytes).value.val = natOfBytes bytes := Nat.mod_eq_of_lt small
  rw [Address.bytes, value, ← twenty, bytesOfNat_natOfBytes]

theorem lower_digits (a : Address) : Text.asciiLower a.digits = a.digits :=
  (Text.hexOfBytes_of_bytesOfHex? (Text.bytesOfHex?_hexOfBytes a.bytes)).symm

-- Forty digits, with letters in either case.
def IsDigits (s : List Char) : Prop := s.length = 40 ∧ ∀ c ∈ s, (Text.hexValue? c).isSome = true

theorem isDigits_of_lower {s : List Char} {a : Address} (lower : Text.asciiLower s = a.digits) : IsDigits s := by
  have forty : (Text.asciiLower s).length = 40 := lower ▸ a.length_digits
  refine ⟨by simpa [Text.asciiLower] using forty, fun c member => ?_⟩
  have written : c.toLower ∈ a.digits := lower ▸ List.mem_map_of_mem member
  obtain ⟨n, small, same⟩ := Text.mem_hexOfBytes written
  rw [← Text.hexValue?_toLower, same, Text.hexValue?_hexDigit n small]
  rfl

theorem exists_of_isDigits {s : List Char} (digits : IsDigits s) : ∃ a : Address, Text.asciiLower s = a.digits ∧
    Text.bytesOfHex? s = some a.bytes := by
  obtain ⟨bytes, read, twenty⟩ := Text.bytesOfHex?_digits (n := 20) digits.1 digits.2
  refine ⟨ofBytes bytes, ?_, ?_⟩
  · rw [Address.digits, bytes_ofBytes twenty, Text.hexOfBytes_of_bytesOfHex? read]
  · rw [bytes_ofBytes twenty, read]

theorem read_eq_ok {s : List Char} {a : Address} :
    read s = .ok a ↔ Text.asciiLower (Text.withoutHexMark s) = a.digits := by
  unfold read
  constructor
  · intro said
    split at said
    · cases said
    dsimp only at said
    split at said
    · cases said
    rename_i forty
    split at said
    · cases said
    rename_i good
    cases said
    have digits := digits_of_bytes good
    rw [Text.utf8Bytes_ascii (ascii_of_digits digits), List.length_map] at forty
    obtain ⟨a, lower, decoded⟩ := exists_of_isDigits ⟨Decidable.not_not.mp forty, digits⟩
    rw [decoded, Option.getD_some, ofBytes_bytes, lower]
  · intro lower
    obtain ⟨forty, each⟩ := isDigits_of_lower lower
    have ascii := ascii_of_digits each
    have even := length_marked ascii
    have decoded : Text.bytesOfHex? (Text.withoutHexMark s) = some a.bytes := by
      rw [← Text.bytesOfHex?_asciiLower, lower, Address.digits, Text.bytesOfHex?_hexOfBytes]
    have good : badDigit? 0 ((Text.withoutHexMark s).map fun c => UInt8.ofNat c.toNat) = none := by
      refine badDigit?_eq_none.mpr fun b member => ?_
      obtain ⟨c, inside, rfl⟩ := List.mem_map.mp member
      have small := ascii c inside
      rw [Text.toNat_ofNat (by omega), Char.ofNat_toNat]
      exact each c inside
    rw [forty] at even
    rw [if_neg (by omega)]
    simp only [Text.utf8Bytes_ascii ascii, List.length_map, forty, ne_eq, not_true_eq_false, if_false, good, decoded,
      Option.getD_some, ofBytes_bytes]

theorem read_text (a : Address) : read a.text.toList = .ok a := by
  have unmarked : ∀ s, Text.withoutHexMark ('0' :: 'x' :: s) = s := fun _ => rfl
  rw [text, String.toList_ofList, read_eq_ok, unmarked, lower_digits]

end Address

end RouteQuote
