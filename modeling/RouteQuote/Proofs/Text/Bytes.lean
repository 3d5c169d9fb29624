import RouteQuote.Text.Bytes

namespace RouteQuote.Text

-- The core library builds the list from the front, in reverse; what was taken so far stays in front.
theorem toList_loop (bytes : ByteArray) (i : Nat) (taken : List UInt8) :
    ByteArray.toList.loop bytes i taken = taken.reverse ++ bytes.data.toList.drop i := by
  fun_induction ByteArray.toList.loop bytes i taken with
  | case1 i taken inside ih =>
    have inside' : i < bytes.data.toList.length := inside
    have here : bytes.get! i = bytes.data.toList[i] := getElem!_pos bytes.data i inside
    rw [ih, List.reverse_cons, List.append_assoc, here, List.drop_eq_getElem_cons inside']
    rfl
  | case2 i taken beyond =>
    have beyond' : bytes.data.toList.length ≤ i := Nat.le_of_not_lt beyond
    rw [List.drop_eq_nil_of_le beyond', List.append_nil]

theorem utf8Bytes_eq (s : String) : utf8Bytes s = s.toList.flatMap String.utf8EncodeChar := by
  have encoded : s.toByteArray = (s.toList.flatMap String.utf8EncodeChar).toByteArray := String.utf8Encode_toList.symm
  rw [utf8Bytes, String.toUTF8_eq_toByteArray, encoded, ByteArray.toList, toList_loop]
  simp

theorem length_utf8Bytes (s : String) : (utf8Bytes s).length = s.utf8ByteSize := by
  rw [utf8Bytes, String.toUTF8_eq_toByteArray, ByteArray.toList, toList_loop]
  rfl

theorem utf8EncodeChar_ascii {c : Char} (ascii : c.toNat < 0x80) : String.utf8EncodeChar c = [UInt8.ofNat c.toNat] := by
  have small : c.val.toNat ≤ 0x7f := Nat.le_of_lt_succ ascii
  unfold String.utf8EncodeChar
  simp only [if_pos small]
  rfl

theorem utf8Bytes_ascii {cs : List Char} (ascii : ∀ c ∈ cs, c.toNat < 0x80) :
    utf8Bytes (String.ofList cs) = cs.map fun c => UInt8.ofNat c.toNat := by
  rw [utf8Bytes_eq, String.toList_ofList]
  induction cs with
  | nil => rfl
  | cons c cs ih =>
    obtain ⟨first, rest⟩ := List.forall_mem_cons.mp ascii
    rw [List.flatMap_cons, utf8EncodeChar_ascii first, ih rest, List.map_cons, List.singleton_append]

theorem toNat_ofNat {n : Nat} (small : n < 256) : (UInt8.ofNat n).toNat = n := by
  simpa using Nat.mod_eq_of_lt small

theorem decodeFrom_ascii {n : Nat} (ascii : n < 0x80) (rest : List UInt8) :
    decodeFrom none (UInt8.ofNat n :: rest) = Char.ofNat n :: decodeFrom none rest := by
  simp only [decodeFrom, toNat_ofNat (Nat.lt_trans ascii (by decide)), if_pos ascii, List.nil_append]

theorem decodeFrom_lead {n missing value low high : Nat} (wide : 0x80 ≤ n) (small : n < 256)
    (leads : leadByte? n = some (missing, value, low, high)) (rest : List UInt8) :
    decodeFrom none (UInt8.ofNat n :: rest) = decodeFrom (some ⟨missing, value, low, high⟩) rest := by
  simp only [decodeFrom, toNat_ofNat small, if_neg (Nat.not_lt.mpr wide), leads, List.nil_append]

theorem decodeFrom_middle {n missing value low high : Nat} (within : low ≤ n ∧ n ≤ high) (small : n < 256)
    (more : missing ≠ 1) (rest : List UInt8) :
    decodeFrom (some ⟨missing, value, low, high⟩) (UInt8.ofNat n :: rest) =
      decodeFrom (some ⟨missing - 1, 64 * value + (n - 0x80), 0x80, 0xBF⟩) rest := by
  simp only [decodeFrom, toNat_ofNat small, if_pos within, if_neg more]

theorem decodeFrom_last {n value low high : Nat} (within : low ≤ n ∧ n ≤ high) (small : n < 256)
    (rest : List UInt8) :
    decodeFrom (some ⟨1, value, low, high⟩) (UInt8.ofNat n :: rest) =
      Char.ofNat (64 * value + (n - 0x80)) :: decodeFrom none rest := by
  simp only [decodeFrom, toNat_ofNat small, if_pos within, if_true]

theorem leadByte?_two {k : Nat} (low : 2 ≤ k) (high : k < 32) : leadByte? (k + 0xC0) = some (1, k, 0x80, 0xBF) := by
  have within : 0xC2 ≤ k + 0xC0 ∧ k + 0xC0 ≤ 0xDF := by omega
  rw [leadByte?, if_pos within, Nat.add_sub_cancel]

theorem leadByte?_three {k : Nat} (high : k < 16) :
    leadByte? (k + 0xE0) = some (2, k, if k = 0 then 0xA0 else 0x80, if k = 0xD then 0x9F else 0xBF) := by
  have table : ∀ k : Fin 16, leadByte? (k.val + 0xE0) =
      some (2, k.val, if k.val = 0 then 0xA0 else 0x80, if k.val = 0xD then 0x9F else 0xBF) := by decide
  exact table ⟨k, high⟩

theorem leadByte?_four {k : Nat} (high : k < 5) :
    leadByte? (k + 0xF0) = some (3, k, if k = 0 then 0x90 else 0x80, if k = 4 then 0x8F else 0xBF) := by
  have table : ∀ k : Fin 5, leadByte? (k.val + 0xF0) =
      some (3, k.val, if k.val = 0 then 0x90 else 0x80, if k.val = 4 then 0x8F else 0xBF) := by decide
  exact table ⟨k, high⟩

-- Surrogates are no characters: without that the second of three bytes could leave the range its lead byte sets.
theorem val_cases (c : Char) : c.val.toNat < 0xD800 ∨ 0xDFFF < c.val.toNat ∧ c.val.toNat < 0x110000 := c.valid

-- No byte of a character outside ASCII is taken for a character of ASCII.
theorem utf8EncodeChar_wide {c : Char} (wide : 0x80 ≤ c.toNat) : ∀ b ∈ String.utf8EncodeChar c, 0x80 ≤ b.toNat := by
  have wide : 0x80 ≤ c.val.toNat := wide
  unfold String.utf8EncodeChar
  generalize c.val.toNat = v at wide ⊢
  simp only
  rw [if_neg (by omega)]
  intro b member
  split at member
  · simp only [List.mem_cons, List.not_mem_nil, or_false] at member
    rcases member with rfl | rfl <;> rw [toNat_ofNat (by omega)] <;> omega
  split at member
  · simp only [List.mem_cons, List.not_mem_nil, or_false] at member
    rcases member with rfl | rfl | rfl <;> rw [toNat_ofNat (by omega)] <;> omega
  · simp only [List.mem_cons, List.not_mem_nil, or_false] at member
    rcases member with rfl | rfl | rfl | rfl <;> rw [toNat_ofNat (by omega)] <;> omega

theorem decodeFrom_encodeChar (c : Char) (rest : List UInt8) :
    decodeFrom none (String.utf8EncodeChar c ++ rest) = c :: decodeFrom none rest := by
  have valid := val_cases c
  have back : Char.ofNat c.val.toNat = c := Char.ofNat_toNat c
  unfold String.utf8EncodeChar
  generalize c.val.toNat = v at valid back ⊢
  by_cases one : v ≤ 0x7f
  · simp only [if_pos one, List.cons_append, List.nil_append]
    rw [decodeFrom_ascii (by omega), back]
  · by_cases two : v ≤ 0x7ff
    · simp only [if_neg one, if_pos two, List.cons_append, List.nil_append]
      rw [decodeFrom_lead (by omega) (by omega) (leadByte?_two (by omega) (by omega)),
        decodeFrom_last (by omega) (by omega)]
      have whole : 64 * (v / 64 % 32) + (v % 64 + 0x80 - 0x80) = v := by omega
      rw [whole, back]
    · by_cases three : v ≤ 0xffff
      · simp only [if_neg one, if_neg two, if_pos three, List.cons_append, List.nil_append]
        have second : (if v / 4096 % 16 = 0 then 0xA0 else 0x80) ≤ v / 64 % 64 + 0x80 ∧
            v / 64 % 64 + 0x80 ≤ if v / 4096 % 16 = 0xD then 0x9F else 0xBF := by
          split <;> split <;> omega
        rw [decodeFrom_lead (by omega) (by omega) (leadByte?_three (by omega)),
          decodeFrom_middle second (by omega) (by decide), decodeFrom_last (by omega) (by omega)]
        have whole : 64 * (64 * (v / 4096 % 16) + (v / 64 % 64 + 0x80 - 0x80)) + (v % 64 + 0x80 - 0x80) = v := by omega
        rw [whole, back]
      · simp only [if_neg one, if_neg two, if_neg three, List.cons_append, List.nil_append]
        have second : (if v / 262144 % 8 = 0 then 0x90 else 0x80) ≤ v / 4096 % 64 + 0x80 ∧
            v / 4096 % 64 + 0x80 ≤ if v / 262144 % 8 = 4 then 0x8F else 0xBF := by
          split <;> split <;> omega
        rw [decodeFrom_lead (by omega) (by omega) (leadByte?_four (by omega)),
          decodeFrom_middle second (by omega) (by decide), decodeFrom_middle (by omega) (by omega) (by decide),
          decodeFrom_last (by omega) (by omega)]
        have whole : 64 * (64 * (64 * (v / 262144 % 8) + (v / 4096 % 64 + 0x80 - 0x80)) + (v / 64 % 64 + 0x80 - 0x80)) +
            (v % 64 + 0x80 - 0x80) = v := by omega
        rw [whole, back]

theorem decodeFrom_encode (cs : List Char) : decodeFrom none (cs.flatMap String.utf8EncodeChar) = cs := by
  induction cs with
  | nil => rfl
  | cons c cs ih => rw [List.flatMap_cons, decodeFrom_encodeChar, ih]

theorem utf8Lossy_utf8Bytes (s : String) : utf8Lossy (utf8Bytes s) = s := by
  rw [utf8Lossy, utf8Bytes_eq, decodeFrom_encode, String.ofList_toList]

-- Each byte behind a percent sign, by two digits.
inductive Escapes : List Char → List UInt8 → Prop where
  | nil : Escapes [] []
  | cons {h l : Char} {x y : Nat} {rest : List Char} {bytes : List UInt8} (high : hexValue? h = some x)
      (low : hexValue? l = some y) (others : Escapes rest bytes) :
      Escapes ('%' :: h :: l :: rest) (UInt8.ofNat (16 * x + y) :: bytes)

-- A segment of a path that stands for a text, character by character.
inductive Escaped : List Char → List Char → Prop where
  | nil : Escaped [] []
  | plain {c : Char} {segment text : List Char} (unslashed : c ≠ '/') (unsigned : c ≠ '%')
      (others : Escaped segment text) : Escaped (c :: segment) (c :: text)
  | escape {c : Char} {sequence segment text : List Char} (bytes : Escapes sequence (String.utf8EncodeChar c))
      (others : Escaped segment text) : Escaped (sequence ++ segment) (c :: text)

theorem hexValue?_slash {c : Char} {d : Nat} (known : hexValue? c = some d) : c ≠ '/' := by
  rintro rfl
  cases known

-- The byte of a digit is the digit again.
theorem ofNat_byte {c : Char} (ascii : c.toNat < 0x80) : Char.ofNat (UInt8.ofNat c.toNat).toNat = c := by
  rw [toNat_ofNat (Nat.lt_trans ascii (by decide)), Char.ofNat_toNat]

theorem percentDecode_other {b : UInt8} (other : b ≠ 0x25) (rest : List UInt8) :
    percentDecode (b :: rest) = b :: percentDecode rest := by
  rw [percentDecode]
  intro h l rest' same
  exact absurd same other

theorem percentDecode_others {bytes : List UInt8} (others : ∀ b ∈ bytes, b ≠ 0x25) (rest : List UInt8) :
    percentDecode (bytes ++ rest) = bytes ++ percentDecode rest := by
  induction bytes with
  | nil => rfl
  | cons b bytes ih =>
    obtain ⟨first, later⟩ := List.forall_mem_cons.mp others
    rw [List.cons_append, percentDecode_other first, ih later, List.cons_append]

theorem percentDecode_escape {h l : Char} {x y : Nat} (high : hexValue? h = some x) (low : hexValue? l = some y)
    (rest : List UInt8) :
    percentDecode (0x25 :: UInt8.ofNat h.toNat :: UInt8.ofNat l.toNat :: rest) =
      UInt8.ofNat (16 * x + y) :: percentDecode rest := by
  rw [percentDecode, ofNat_byte (hexValue?_ascii high), ofNat_byte (hexValue?_ascii low), high, low]

theorem percentDecode_escapes {sequence : List Char} {bytes : List UInt8} (escapes : Escapes sequence bytes)
    (rest : List UInt8) :
    percentDecode (sequence.flatMap String.utf8EncodeChar ++ rest) = bytes ++ percentDecode rest := by
  induction escapes with
  | nil => rfl
  | cons high low others ih =>
    have sign : String.utf8EncodeChar '%' = [0x25] := by decide
    simp only [List.flatMap_cons, sign, utf8EncodeChar_ascii (hexValue?_ascii high),
      utf8EncodeChar_ascii (hexValue?_ascii low), List.cons_append, List.nil_append]
    rw [percentDecode_escape high low, ih]

-- No byte of another character is taken for a percent sign.
theorem utf8EncodeChar_unsigned {c : Char} (unsigned : c ≠ '%') : ∀ b ∈ String.utf8EncodeChar c, b ≠ 0x25 := by
  intro b member same
  subst same
  rcases Nat.lt_or_ge c.toNat 0x80 with ascii | wide
  · rw [utf8EncodeChar_ascii ascii, List.mem_singleton] at member
    have sign : c = '%' := by
      rw [← ofNat_byte ascii, ← member]
      rfl
    exact unsigned sign
  · have great := utf8EncodeChar_wide wide _ member
    exact absurd great (by decide)

theorem percentDecode_escaped {segment text : List Char} (escaped : Escaped segment text) :
    percentDecode (segment.flatMap String.utf8EncodeChar) = text.flatMap String.utf8EncodeChar := by
  induction escaped with
  | nil => rfl
  | plain unslashed unsigned others ih =>
    rw [List.flatMap_cons, percentDecode_others (utf8EncodeChar_unsigned unsigned), ih, List.flatMap_cons]
  | escape bytes others ih =>
    rw [List.flatMap_append, percentDecode_escapes bytes, ih, List.flatMap_cons]

theorem utf8?_utf8Bytes (s : String) : utf8? (utf8Bytes s) = some s := by
  rw [utf8?, utf8Lossy_utf8Bytes, if_pos rfl]

-- However a text is escaped, it is read back.
theorem utf8?_escaped {segment : List Char} {value : String} (escaped : Escaped segment value.toList) :
    utf8? (percentDecode (utf8Bytes (String.ofList segment))) = some value := by
  rw [utf8Bytes_eq, String.toList_ofList, percentDecode_escaped escaped, ← utf8Bytes_eq, utf8?_utf8Bytes]

theorem escapes_unslashed {sequence : List Char} {bytes : List UInt8} (escapes : Escapes sequence bytes) :
    '/' ∉ sequence := by
  induction escapes with
  | nil => exact List.not_mem_nil
  | cons high low others ih =>
    have first := hexValue?_slash high
    have second := hexValue?_slash low
    simp [ih, first.symm, second.symm]

-- A slash in the text is always escaped, so it does not cut the path.
theorem escaped_unslashed {segment text : List Char} (escaped : Escaped segment text) : '/' ∉ segment := by
  induction escaped with
  | nil => exact List.not_mem_nil
  | plain unslashed unsigned others ih => simp [ih, unslashed.symm]
  | escape bytes others ih => simp [ih, escapes_unslashed bytes]

theorem escaped_nonempty {segment : List Char} {value : String} (escaped : Escaped segment value.toList)
    (filled : value ≠ "") : segment ≠ [] := by
  rintro rfl
  have read := utf8?_escaped escaped
  have bytes : percentDecode (utf8Bytes (String.ofList [])) = utf8Bytes "" := by
    rw [utf8Bytes_eq, String.toList_ofList]
    rfl
  rw [bytes, utf8?_utf8Bytes] at read
  cases read
  exact filled rfl

theorem escapes_bytes (bytes : List UInt8) : Escapes (bytes.flatMap fun b => '%' :: hexOfByte b) bytes := by
  induction bytes with
  | nil => exact .nil
  | cons b bytes ih =>
    obtain ⟨high, low, joined⟩ := hexOfByte_values b
    have escapes := Escapes.cons high low ih
    rw [joined] at escapes
    exact escapes

-- Every byte of a text behind a percent sign.
def percentEncode (text : List Char) : List Char :=
  text.flatMap fun c => (String.utf8EncodeChar c).flatMap fun b => '%' :: hexOfByte b

-- Every text can be written, whatever its characters are.
theorem escaped_percentEncode (text : List Char) : Escaped (percentEncode text) text := by
  induction text with
  | nil => exact .nil
  | cons c text ih => exact .escape (escapes_bytes _) ih

theorem escaped_plain {text : List Char} (plain : text.all fun c => c != '/' && c != '%') : Escaped text text := by
  induction text with
  | nil => exact .nil
  | cons c text ih =>
    rw [List.all_cons, Bool.and_eq_true, Bool.and_eq_true, bne_iff_ne, bne_iff_ne] at plain
    exact .plain plain.1.1 plain.1.2 (ih plain.2)

end RouteQuote.Text
