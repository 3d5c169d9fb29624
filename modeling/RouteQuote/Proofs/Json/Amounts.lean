import RouteQuote.Proofs.Input.Amounts
import RouteQuote.Proofs.Json.Scalars

namespace RouteQuote

namespace Amount

-- A letter after a zero, and the radix it chooses where more than decimal and hexadecimal numerals are known.
inductive Chooses : Char → Radix → Prop where
  | octal : Chooses 'o' .octal
  | octalCapital : Chooses 'O' .octal
  | binary : Chooses 'b' .binary
  | binaryCapital : Chooses 'B' .binary

theorem Chooses.unique {mark : Char} {one two : Radix} (first : Chooses mark one) (second : Chooses mark two) : one = two := by
  cases first <;> cases second <;> rfl

-- An octal or a binary numeral behind its mark.
inductive OtherRadix : List Char → Nat → Prop where
  | marked {mark : Char} {radix : Radix} {s : List Char} {n : Nat} (chosen : Chooses mark radix)
      (digits : Digits radix.base s) (written : value radix.base s = n) : OtherRadix ('0' :: mark :: s) n

section

variable {mark : Char} {radix : Radix} {s : List Char} {a : Amount}

theorem readAnyRadix_chosen (chosen : Chooses mark radix) :
    readAnyRadix ('0' :: mark :: s) = read radix (bytesOf s) := by
  cases chosen <;> rfl

-- The mark is met as the second digit, before any number could be too large.
theorem readMarked_chosen (chosen : Chooses mark radix) :
    readMarked ('0' :: mark :: s) = .error (.invalidDigit (UInt8.ofNat mark.toNat)) := by
  have unmarked : Text.hasHexMark ('0' :: mark :: s) = false := by cases chosen <;> rfl
  have ascii : mark.toNat < 0x80 := by cases chosen <;> decide
  have bytes : bytesOf ('0' :: mark :: s) = 48 :: UInt8.ofNat mark.toNat :: bytesOf s := by
    simp only [bytesOf, Text.utf8Bytes_eq, String.toList_ofList, List.flatMap_cons, Text.utf8EncodeChar_ascii ascii]
    rfl
  rw [readMarked_unmarked unmarked, bytes]
  cases chosen <;> rfl

theorem readAnyRadix_other (other : ∀ mark radix rest, s = '0' :: mark :: rest → ¬ Chooses mark radix) :
    readAnyRadix s = readMarked s := by
  unfold readAnyRadix
  split
  · rename_i mark rest
    have none := fun radix => other mark radix rest rfl
    by_cases hexadecimal : mark = 'x' ∨ mark = 'X'
    · rw [if_pos hexadecimal, readMarked_marked hexadecimal]
    have unmarked : Text.hasHexMark ('0' :: mark :: rest) = false := by
      apply Bool.eq_false_iff.mpr
      intro marked
      obtain ⟨_, _, known, same⟩ := hasHexMark_iff.mp marked
      cases same
      exact hexadecimal known
    have octal : ¬(mark = 'o' ∨ mark = 'O') := by
      rintro (rfl | rfl)
      · exact none .octal .octal
      · exact none .octal .octalCapital
    have binary : ¬(mark = 'b' ∨ mark = 'B') := by
      rintro (rfl | rfl)
      · exact none .binary .binary
      · exact none .binary .binaryCapital
    rw [if_neg hexadecimal, if_neg octal, if_neg binary, readMarked_unmarked unmarked]
  · rename_i noZero
    have unmarked : Text.hasHexMark s = false := by
      apply Bool.eq_false_iff.mpr
      intro marked
      obtain ⟨mark, rest, _, same⟩ := hasHexMark_iff.mp marked
      exact noZero mark rest same
    rw [readMarked_unmarked unmarked]

theorem readAnyRadix_eq_ok : readAnyRadix s = .ok a ↔ readMarked s = .ok a ∨ OtherRadix s a.val := by
  by_cases chosen : ∃ mark radix rest, s = '0' :: mark :: rest ∧ Chooses mark radix
  · obtain ⟨mark, radix, rest, rfl, chosen⟩ := chosen
    rw [readAnyRadix_chosen chosen, readMarked_chosen chosen, read_eq_ok]
    constructor
    · rintro ⟨digits, written⟩
      exact .inr (.marked chosen digits written)
    · rintro (said | other)
      · cases said
      · cases other with
        | marked chosen' digits written =>
          cases chosen.unique chosen'
          exact ⟨digits, written⟩
  · have other : ∀ mark radix rest, s = '0' :: mark :: rest → ¬ Chooses mark radix :=
      fun mark radix rest same chosen' => chosen ⟨mark, radix, rest, same, chosen'⟩
    rw [readAnyRadix_other other]
    constructor
    · exact .inl
    · rintro (said | marked)
      · exact said
      · cases marked with
        | marked chosen' => exact absurd chosen' (other _ _ _ rfl)

end

end Amount

namespace Json

open Amount

variable {t rest : List Char} {s : String}

theorem Quoted.ended (quoted : Quoted t s) (rest : List Char) : Ended t rest := by
  obtain ⟨u, rfl, _⟩ := quoted
  exact ended_of_head rfl u rest

theorem amount_quoted (quoted : Quoted t s) (a : Amount) :
    Reader.amount (t ++ rest) = .ok (a, rest) ↔ readAnyRadix (Text.trim s.toList) = .ok a := by
  have text := Reader.exact_text.front quoted (quoted.ended rest)
  rw [Reader.amount, Reader.bind_ok text]
  cases readAnyRadix (Text.trim s.toList) with
  | ok b =>
    have made : ((pure b : Json.Reader Amount) rest = .ok (a, rest)) ↔ b = a := by
      constructor
      · intro said
        cases said
        rfl
      · rintro rfl
        rfl
    simpa using made
  | error fault =>
    constructor
    · intro said
      cases said
    · intro said
      cases said

-- The marks of the other radices are refused where people write.
theorem amount_otherRadix (field : String) {n : Nat} (other : OtherRadix (Text.trim s.toList) n) :
    ∃ byte, Input.amount field s =
      .error (.validation field (.amount (String.ofList (Text.trim s.toList)) (.invalidDigit byte))) := by
  generalize trimmed : Text.trim s.toList = numeral at other
  cases other with
  | @marked mark _ _ _ chosen =>
    refine ⟨UInt8.ofNat mark.toNat, ?_⟩
    rw [← trimmed]
    exact Input.amount_error (trimmed ▸ readMarked_chosen chosen)

theorem amount_notations (field : String) (quoted : Quoted t s) (rest : List Char) (a : Amount) :
    (Reader.amount (t ++ rest) = .ok (a, rest) ↔
      Input.amount field s = .ok a ∨ OtherRadix (Text.trim s.toList) a.val) ∧
    (OtherRadix (Text.trim s.toList) a.val → ∃ byte, Input.amount field s =
      .error (.validation field (.amount (String.ofList (Text.trim s.toList)) (.invalidDigit byte)))) := by
  refine ⟨?_, amount_otherRadix field⟩
  rw [amount_quoted quoted, readAnyRadix_eq_ok, Input.amount_eq_ok]

theorem letters_plain {cs : List Char} (plain : ∀ c ∈ cs, c ≠ '"' ∧ c ≠ '\\' ∧ 0x20 ≤ c.toNat) :
    Letters Numbered cs cs := by
  induction cs with
  | nil => exact .done
  | cons c cs ih =>
    obtain ⟨⟨noQuote, noEscape, noControl⟩, others⟩ := List.forall_mem_cons.mp plain
    exact .next (.plain noQuote noEscape noControl) (ih others)

theorem quoted_plain {cs : List Char} (plain : cs.all fun c => c != '"' && c != '\\' && decide (0x20 ≤ c.toNat)) :
    Quoted ('"' :: (cs ++ ['"'])) (String.ofList cs) := by
  refine ⟨cs ++ ['"'], rfl, cs, rfl, ?_⟩
  rw [String.toList_ofList]
  exact letters_plain (by simpa [and_assoc] using plain)

def hexNumeral : List Char := ['0', 'x', '2', 'a']

def binaryNumeral : List Char := ['0', 'b', '1', '1']

theorem amount_notations_hex : Quoted ('"' :: (hexNumeral ++ ['"'])) (String.ofList hexNumeral) ∧
    Input.amount "amount" (String.ofList hexNumeral) = .ok 42 ∧
    Reader.amount ('"' :: (hexNumeral ++ ['"']) ++ [',']) = .ok (42, [',']) := by
  have quoted : Quoted ('"' :: (hexNumeral ++ ['"'])) (String.ofList hexNumeral) := quoted_plain (by decide)
  have taken : Taken (Text.trim (String.ofList hexNumeral).toList) (42 : Amount).val := by
    have trimmed : Text.trim hexNumeral = hexNumeral := by decide
    rw [String.toList_ofList, trimmed]
    exact .hexadecimal (.inl rfl) (by decide) rfl
  have read : Input.amount "amount" (String.ofList hexNumeral) = .ok 42 :=
    Input.amount_eq_ok.mpr (readMarked_eq_ok.mpr taken)
  exact ⟨quoted, read, (amount_notations "amount" quoted [','] 42).1.mpr (.inl read)⟩

-- A binary numeral is an amount in JSON and none where people write.
theorem amount_binary : ¬ ∀ (field : String) (t : List Char) (s : String) (a : Amount), Quoted t s →
    (Reader.amount t = .ok (a, []) ↔ Input.amount field s = .ok a) := by
  intro agree
  have quoted : Quoted ('"' :: (binaryNumeral ++ ['"'])) (String.ofList binaryNumeral) := quoted_plain (by decide)
  have other : OtherRadix (Text.trim (String.ofList binaryNumeral).toList) (3 : Amount).val := by
    have trimmed : Text.trim binaryNumeral = binaryNumeral := by decide
    rw [String.toList_ofList, trimmed]
    exact .marked .binary (by decide) rfl
  have read : Reader.amount ('"' :: (binaryNumeral ++ ['"']) ++ []) = .ok (3, []) :=
    (amount_quoted quoted 3).mpr (readAnyRadix_eq_ok.mpr (.inr other))
  rw [List.append_nil] at read
  obtain ⟨byte, refused⟩ := amount_otherRadix "amount" other
  rw [(agree "amount" _ _ 3 quoted).mp read] at refused
  cases refused

end Json

end RouteQuote
