import RouteQuote.Address
import RouteQuote.Proofs.Abi.RoundTrip
import RouteQuote.Proofs.Address.Digits
import RouteQuote.Proofs.Input.Amounts

namespace RouteQuote

namespace Text

-- A text behind so many marks.
inductive Behind (s : List Char) : Nat → List Char → Prop where
  | bare : Behind s 0 s
  | marked {n : Nat} {t : List Char} {mark : Char} (known : mark = 'x' ∨ mark = 'X') (behind : Behind s n t) :
      Behind s (n + 1) ('0' :: mark :: t)

theorem Behind.trans {s t u : List Char} {m n : Nat} (inner : Behind s m t) (outer : Behind t n u) :
    Behind s (m + n) u := by
  induction outer with
  | bare => exact inner
  | marked known _ ih => exact .marked known ih

theorem behind_withoutHexMark (s : List Char) : ∃ n ≤ 1, Behind (withoutHexMark s) n s := by
  rcases withoutHexMark_cases s with same | ⟨mark, known, same⟩
  · refine ⟨0, Nat.zero_le 1, ?_⟩
    rw [same]
    exact .bare
  · refine ⟨1, Nat.le_refl 1, ?_⟩
    have behind : Behind (withoutHexMark s) 1 ('0' :: mark :: withoutHexMark s) := .marked known .bare
    rwa [← same] at behind

theorem withoutHexMark_marked {mark : Char} (known : mark = 'x' ∨ mark = 'X') (s : List Char) :
    withoutHexMark ('0' :: mark :: s) = s := by
  rcases known with rfl | rfl
  · rfl
  · rfl

theorem withoutHexMark_digits {s : List Char} (digits : ∀ c ∈ s, (hexValue? c).isSome = true) : withoutHexMark s = s := by
  rcases withoutHexMark_cases s with same | ⟨mark, known, same⟩
  · exact same
  · have digit : (hexValue? mark).isSome = true := digits mark (same ▸ by simp)
    rcases known with rfl | rfl
    · exact absurd digit (by decide)
    · exact absurd digit (by decide)

-- Taking off one mark and then another leaves the digits behind two marks, behind one and behind none.
theorem withoutHexMark_twice {digits s : List Char} {n : Nat} (each : ∀ c ∈ digits, (hexValue? c).isSome = true)
    (behind : Behind digits n s) (few : n ≤ 2) : withoutHexMark (withoutHexMark s) = digits := by
  have kept := withoutHexMark_digits each
  cases behind with
  | bare => rw [kept, kept]
  | marked known behind =>
    rw [withoutHexMark_marked known]
    cases behind with
    | bare => exact kept
    | marked known behind =>
      rw [withoutHexMark_marked known]
      cases behind with
      | bare => rfl
      | marked => omega

theorem Behind.visible {digits s : List Char} {n : Nat} (behind : Behind digits n s)
    (visible : ∀ c ∈ digits, isBlank c = false) : ∀ c ∈ s, isBlank c = false := by
  induction behind with
  | bare => exact visible
  | @marked _ _ mark known _ ih =>
    have second : isBlank mark = false := by rcases known with rfl | rfl <;> decide
    exact List.forall_mem_cons.mpr ⟨by decide, List.forall_mem_cons.mpr ⟨second, ih⟩⟩

end Text

theorem Text.toLower_hexDigit {n : Nat} (small : n < 16) :
    (hexDigit n).toLower = hexDigit n ∧ (hexDigit n).toUpper.toLower = hexDigit n := by
  have table : ∀ k : Fin 16,
      (hexDigit k.val).toLower = hexDigit k.val ∧ (hexDigit k.val).toUpper.toLower = hexDigit k.val := by decide
  exact table ⟨n, small⟩

-- The hash that decides which letters are capitals has a digit for each of the forty places.
theorem Address.lower_checksum (a : Address) :
    ∃ digits, a.checksumText = String.ofList ('0' :: 'x' :: digits) ∧ Text.asciiLower digits = a.digits := by
  refine ⟨_, rfl, ?_⟩
  generalize hashed : Text.hexOfBytes (Hash.keccak256 _) = hash
  have enough : a.digits.length ≤ hash.length := by
    rw [← hashed, Text.length_hexOfBytes, Hash.length_keccak256, a.length_digits]
    decide
  rw [Text.asciiLower, List.map_zipWith, ← List.map_uncurry_zip_eq_zipWith]
  refine (List.map_congr_left fun pair member => ?_).trans (List.map_fst_zip enough)
  obtain ⟨n, small, digit⟩ := Text.mem_hexOfBytes (List.of_mem_zip member).1
  obtain ⟨kept, back⟩ := Text.toLower_hexDigit small
  change (if 8 ≤ (Text.hexValue? pair.2).getD 0 then pair.1.toUpper else pair.1).toLower = pair.1
  rw [digit]
  split
  · exact back
  · exact kept

namespace Input

open Text

-- Forty digits behind no more marks than that.
def Marked (most : Nat) (s : List Char) : Prop :=
  ∃ n digits, n ≤ most ∧ Behind digits n s ∧ Address.IsDigits digits

theorem address_eq_ok {raw : String} {a : Address} :
    address raw = .ok a ↔ asciiLower (withoutHexMark (withoutHexMark (trim raw.toList))) = a.digits := by
  rw [← Address.read_eq_ok]
  unfold address
  cases said : Address.read (withoutHexMark (trim raw.toList)) <;> simp [said]

theorem address_refused {raw : String} (refused : ∀ a, address raw ≠ .ok a) :
    address raw = .error (.invalidAddress (String.ofList (trim raw.toList))) := by
  unfold address at refused ⊢
  cases said : Address.read (withoutHexMark (trim raw.toList)) with
  | ok a => exact absurd (by simp [said]) (refused a)
  | error fault => simp [said]

theorem address_behind {raw : String} {a : Address} : address raw = .ok a ↔
    ∃ n digits, n ≤ 2 ∧ Behind digits n (trim raw.toList) ∧ asciiLower digits = a.digits := by
  rw [address_eq_ok]
  constructor
  · intro lower
    obtain ⟨m, one, first⟩ := behind_withoutHexMark (trim raw.toList)
    obtain ⟨n, other, second⟩ := behind_withoutHexMark (withoutHexMark (trim raw.toList))
    exact ⟨n + m, _, by omega, second.trans first, lower⟩
  · rintro ⟨n, digits, few, behind, lower⟩
    rwa [withoutHexMark_twice (Address.isDigits_of_lower lower).2 behind few]

-- Which texts are taken, and for which address; every other text is refused as it stands without the blanks around it.
theorem address_marks (raw : String) :
    let s := trim raw.toList
    (∀ a, address raw = .ok a ↔ ∃ n digits, n ≤ 2 ∧ Behind digits n s ∧ asciiLower digits = a.digits) ∧
    ((∃ a, address raw = .ok a) ↔ Marked 2 s) ∧
    (address raw = .error (.invalidAddress (String.ofList s)) ↔ ¬ Marked 2 s) := by
  intro s
  have taken : (∃ a, address raw = .ok a) ↔ Marked 2 s := by
    constructor
    · rintro ⟨a, said⟩
      obtain ⟨n, digits, few, behind, lower⟩ := address_behind.mp said
      exact ⟨n, digits, few, behind, Address.isDigits_of_lower lower⟩
    · rintro ⟨n, digits, few, behind, forty⟩
      obtain ⟨a, lower, -⟩ := Address.exists_of_isDigits forty
      exact ⟨a, address_behind.mpr ⟨n, digits, few, behind, lower⟩⟩
  refine ⟨fun a => address_behind, taken, ?_⟩
  rw [← taken]
  constructor
  · rintro refused ⟨a, said⟩
    rw [refused] at said
    cases said
  · intro none
    exact address_refused fun a said => none ⟨a, said⟩

theorem Marked.digits {s : List Char} (single : Marked 1 s) : ∀ c ∈ withoutHexMark s, (hexValue? c).isSome = true := by
  obtain ⟨n, digits, few, behind, -, each⟩ := single
  cases behind with
  | bare => rwa [withoutHexMark_digits each]
  | marked known behind =>
    rw [withoutHexMark_marked known]
    cases behind with
    | bare => exact each
    | marked => omega

-- Digits of which some letters are capitals.
def mixedDigits : List Char := "7E7A0e201FD38d3ADAA9523da6C109a07118c96A".toList

def mixedAddress : Address := .ofNat 0x7e7a0e201fd38d3adaa9523da6c109a07118c96a

theorem lower_mixed : asciiLower mixedDigits = mixedAddress.digits := by decide

-- What stands behind the first mark is no digit, and is taken for a mark again.
theorem address_twoMarks : ¬ ∀ (raw : String) (a : Address), address raw = .ok a → Marked 1 (trim raw.toList) := by
  intro single
  have trimmed : trim "0x0X7E7A0e201FD38d3ADAA9523da6C109a07118c96A".toList = '0' :: 'x' :: '0' :: 'X' :: mixedDigits := by
    decide
  have behind : Behind mixedDigits 2 ('0' :: 'x' :: '0' :: 'X' :: mixedDigits) :=
    .marked (.inl rfl) (.marked (.inr rfl) .bare)
  have read := address_behind.mpr ⟨2, mixedDigits, Nat.le_refl 2, trimmed ▸ behind, lower_mixed⟩
  have digits := (single _ mixedAddress read).digits
  rw [trimmed, withoutHexMark_marked (.inl rfl)] at digits
  have digit : (hexValue? 'X').isSome = true := digits 'X' (by simp)
  exact absurd digit (by decide)

-- A text with the digits of the address, letters in either case, behind one mark or none, with blanks around.
inductive Spells (a : Address) : String → Prop where
  | written {before s digits after : List Char} {n : Nat} (blankBefore : ∀ c ∈ before, isBlank c = true) (few : n ≤ 1)
      (behind : Behind digits n s) (cased : asciiLower digits = a.digits) (blankAfter : ∀ c ∈ after, isBlank c = true) :
      Spells a (String.ofList (before ++ (s ++ after)))

theorem Spells.marked {a : Address} {digits : List Char} (cased : asciiLower digits = a.digits) :
    Spells a (String.ofList ('0' :: 'x' :: digits)) := by
  have behind : Behind digits 1 ('0' :: 'x' :: digits) := .marked (.inl rfl) .bare
  have spelled : Spells a (String.ofList ([] ++ ('0' :: 'x' :: digits ++ []))) :=
    .written nofun (Nat.le_refl 1) behind cased nofun
  rwa [List.nil_append, List.append_nil] at spelled

theorem address_spelled {a : Address} {raw : String} (spelled : Spells a raw) : address raw = .ok a := by
  obtain ⟨blankBefore, few, behind, cased, blankAfter⟩ := spelled
  have each := (Address.isDigits_of_lower cased).2
  have visible := behind.visible fun c member => Amount.isBlank_hex (each c member)
  rw [address_behind, String.toList_ofList, trim_between blankBefore visible blankAfter]
  exact ⟨_, _, Nat.le_succ_of_le few, behind, cased⟩

-- What is printed, in lower case or with capitals by checksum, is among the spellings.
theorem address_spellings {a : Address} {raw : String} (spelled : Spells a raw) :
    address raw = .ok a ∧ (∀ other, Spells a other → address other = address raw) ∧
    Spells a a.text ∧ Spells a a.checksumText := by
  have read := address_spelled spelled
  refine ⟨read, fun other also => (address_spelled also).trans read.symm, .marked a.lower_digits, ?_⟩
  obtain ⟨digits, written, cased⟩ := a.lower_checksum
  rw [written]
  exact .marked cased

-- Behind a capital mark, between blanks outside ASCII.
theorem address_spellings_mixed :
    let raw := String.ofList (['\u3000', '\t'] ++ ('0' :: 'X' :: mixedDigits ++ ['\u2003', '\u0085']))
    Spells mixedAddress raw ∧ address raw = .ok mixedAddress ∧ address mixedAddress.checksumText = address raw := by
  intro raw
  have before : ∀ c ∈ ['\u3000', '\t'], isBlank c = true := List.all_eq_true.mp rfl
  have after : ∀ c ∈ ['\u2003', '\u0085'], isBlank c = true := List.all_eq_true.mp rfl
  have behind : Behind mixedDigits 1 ('0' :: 'X' :: mixedDigits) := .marked (.inr rfl) .bare
  have spelled : Spells mixedAddress raw := .written before (Nat.le_refl 1) behind lower_mixed after
  obtain ⟨read, alike, -, checksum⟩ := address_spellings spelled
  exact ⟨spelled, read, alike _ checksum⟩

end Input

end RouteQuote
