import RouteQuote.Input
import RouteQuote.Proofs.Amount.Numerals

namespace RouteQuote

namespace Amount

theorem digit?_hex (c : Char) : digit? 16 c = Text.hexValue? c := by
  unfold digit?
  cases known : Text.hexValue? c with
  | none => rfl
  | some d =>
    have range := Text.hexValue?_range known
    have small : d < 16 := by omega
    simp [Option.filter_some, small]

theorem isDigit_of_digit? {c : Char} (digit : (digit? 10 c).isSome = true) : c.isDigit = true := by
  obtain ⟨d, known⟩ := Option.isSome_iff_exists.mp digit
  obtain ⟨known, small⟩ := Option.filter_eq_some_iff.mp known
  have small : d < 10 := by simpa using small
  have range := Text.hexValue?_range known
  have figure : 48 ≤ c.toNat ∧ c.toNat ≤ 57 := by omega
  simp only [Char.isDigit, ge_iff_le, Bool.and_eq_true, decide_eq_true_eq]
  exact figure

theorem digits_of_hex {s : List Char} (digits : ∀ c ∈ s, (Text.hexValue? c).isSome = true) : Digits 16 s := by
  intro c member
  rw [digit?_hex]
  exact .inr (digits c member)

theorem isBlank_hex {c : Char} (digit : (Text.hexValue? c).isSome = true) : Text.isBlank c = false := by
  obtain ⟨d, known⟩ := Option.isSome_iff_exists.mp digit
  have range := Text.hexValue?_range known
  simp [Text.isBlank]
  omega

theorem hasHexMark_iff {s : List Char} :
    Text.hasHexMark s = true ↔ ∃ mark rest, (mark = 'x' ∨ mark = 'X') ∧ s = '0' :: mark :: rest := by
  constructor
  · intro marked
    unfold Text.hasHexMark at marked
    split at marked
    · rename_i rest
      exact ⟨'x', rest, .inl rfl, rfl⟩
    · rename_i rest
      exact ⟨'X', rest, .inr rfl, rfl⟩
    · cases marked
  · rintro ⟨mark, rest, rfl | rfl, rfl⟩
    · rfl
    · rfl

theorem withoutHexMark_unmarked {s : List Char} (unmarked : Text.hasHexMark s = false) : Text.withoutHexMark s = s := by
  unfold Text.withoutHexMark
  split
  · cases unmarked
  · cases unmarked
  · rfl

-- A mark is no decimal digit, so a text that has one is never read as decimal.
theorem unmarked_of_digits {s : List Char} (digits : Digits 10 s) : Text.hasHexMark s = false := by
  apply Bool.eq_false_iff.mpr
  intro marked
  obtain ⟨mark, rest, known, rfl⟩ := hasHexMark_iff.mp marked
  have second := digits mark (by simp)
  revert second
  rcases known with rfl | rfl
  · decide
  · decide

theorem readMarked_unmarked {s : List Char} (unmarked : Text.hasHexMark s = false) :
    readMarked s = read .decimal (bytesOf s) := by
  unfold readMarked
  simp [unmarked]

theorem readMarked_marked {mark : Char} (known : mark = 'x' ∨ mark = 'X') (s : List Char) :
    readMarked ('0' :: mark :: s) = read .hexadecimal (bytesOf s) := by
  rcases known with rfl | rfl
  · rfl
  · rfl

-- What is taken for an amount, and for which.
inductive Taken : List Char → Nat → Prop where
  | decimal {s : List Char} {n : Nat} (digits : Digits 10 s) (written : value 10 s = n) : Taken s n
  | hexadecimal {mark : Char} {s : List Char} {n : Nat} (known : mark = 'x' ∨ mark = 'X') (digits : Digits 16 s)
      (written : value 16 s = n) : Taken ('0' :: mark :: s) n

theorem readMarked_eq_ok {s : List Char} {a : Amount} : readMarked s = .ok a ↔ Taken s a.val := by
  constructor
  · intro said
    cases marked : Text.hasHexMark s with
    | true =>
      obtain ⟨mark, rest, known, rfl⟩ := hasHexMark_iff.mp marked
      rw [readMarked_marked known, read_eq_ok] at said
      exact .hexadecimal known said.1 said.2
    | false =>
      rw [readMarked_unmarked marked, read_eq_ok] at said
      exact .decimal said.1 said.2
  · intro taken
    cases taken with
    | decimal digits written =>
      rw [readMarked_unmarked (unmarked_of_digits digits)]
      exact read_eq_ok.mpr ⟨digits, written⟩
    | hexadecimal known digits written =>
      rw [readMarked_marked known]
      exact read_eq_ok.mpr ⟨digits, written⟩

-- At least one digit, and nothing but digits behind the mark if there is one.
inductive Plain : List Char → Prop where
  | decimal {s : List Char} (some : s ≠ []) (digits : ∀ c ∈ s, c.isDigit = true) : Plain s
  | hexadecimal {mark : Char} {s : List Char} (known : mark = 'x' ∨ mark = 'X') (some : s ≠ [])
      (digits : ∀ c ∈ s, (Text.hexValue? c).isSome = true) : Plain ('0' :: mark :: s)

theorem underscore_not_mem {p : Char → Bool} {s : List Char} (refused : p '_' = false) (each : ∀ c ∈ s, p c = true) :
    '_' ∉ s := by
  intro member
  rw [each '_' member] at refused
  cases refused

theorem Digits.clean {base : Nat} {s : List Char} (digits : Digits base s) (clean : '_' ∉ s) :
    ∀ c ∈ s, (digit? base c).isSome = true := by
  intro c member
  rcases digits c member with rfl | digit
  · exact absurd member clean
  · exact digit

theorem plain_parts {s : List Char} (plain : Plain s) : '_' ∉ s ∧ Text.withoutHexMark s ≠ [] := by
  cases plain with
  | decimal some digits =>
    have unmarked := unmarked_of_digits (digits_of_decimal digits)
    refine ⟨underscore_not_mem (p := Char.isDigit) rfl digits, ?_⟩
    rw [withoutHexMark_unmarked unmarked]
    exact some
  | hexadecimal known some digits =>
    have behind := underscore_not_mem (p := fun c => (Text.hexValue? c).isSome) rfl digits
    rcases known with rfl | rfl
    · exact ⟨by simp [behind], some⟩
    · exact ⟨by simp [behind], some⟩

theorem Taken.plain_iff {s : List Char} {n : Nat} (taken : Taken s n) :
    Plain s ↔ '_' ∉ s ∧ Text.withoutHexMark s ≠ [] := by
  constructor
  · exact plain_parts
  · rintro ⟨clean, some⟩
    cases taken with
    | decimal digits written =>
      rw [withoutHexMark_unmarked (unmarked_of_digits digits)] at some
      exact .decimal some fun c member => isDigit_of_digit? (digits.clean clean c member)
    | @hexadecimal mark s n known digits written =>
      have behind : '_' ∉ s := fun member => clean (List.mem_cons_of_mem _ (List.mem_cons_of_mem _ member))
      refine .hexadecimal known ?_ fun c member => digit?_hex c ▸ digits.clean behind c member
      rcases known with rfl | rfl
      · exact some
      · exact some

end Amount

namespace Input

open Amount

theorem amount_eq_ok {field raw : String} {a : Amount} :
    amount field raw = .ok a ↔ readMarked (Text.trim raw.toList) = .ok a := by
  unfold amount
  cases said : readMarked (Text.trim raw.toList) <;> simp [said]

theorem amount_error {field raw : String} {fault : RadixFault}
    (refused : readMarked (Text.trim raw.toList) = .error fault) :
    amount field raw = .error (.validation field (.amount (String.ofList (Text.trim raw.toList)) fault)) := by
  unfold amount
  simp only [refused]

-- The numerals that are taken are the plain ones, those with underscores, and those without any digit.
theorem amount_numerals (field raw : String) :
    let s := Text.trim raw.toList
    (∀ a, amount field raw = .ok a ↔ Taken s a.val) ∧
    ((∀ a : Amount, ¬ Taken s a.val) →
      ∃ fault, amount field raw = .error (.validation field (.amount (String.ofList s) fault))) ∧
    ∀ a, amount field raw = .ok a → (Plain s ↔ '_' ∉ s ∧ Text.withoutHexMark s ≠ []) := by
  intro s
  have accepted : ∀ a, amount field raw = .ok a ↔ Taken s a.val := fun a => amount_eq_ok.trans readMarked_eq_ok
  refine ⟨accepted, ?_, fun a said => ((accepted a).mp said).plain_iff⟩
  intro none
  cases said : readMarked s with
  | ok a => exact absurd (readMarked_eq_ok.mp said) (none a)
  | error fault => exact ⟨fault, amount_error said⟩

-- Neither a blank text nor a bare mark has a digit.
theorem amount_blank : ¬ ∀ (field raw : String) (a : Amount), amount field raw = .ok a → Plain (Text.trim raw.toList) := by
  intro plain
  have nothing : Text.trim " ".toList = [] := by decide
  have taken : Taken (Text.trim " ".toList) Amount.zero.val := by
    rw [nothing]
    exact .decimal nofun rfl
  have read : amount "amount" " " = .ok .zero := amount_eq_ok.mpr (readMarked_eq_ok.mpr taken)
  have parts := plain_parts (plain "amount" " " .zero read)
  rw [nothing] at parts
  exact parts.2 rfl

-- The number itself, or a refusal that names the field, when it does not fit.
def exactly (field : String) (s : List Char) (n : Nat) : Except Error Amount :=
  if fits : n < Amount.size then .ok ⟨n, fits⟩ else .error (.validation field (.amount (String.ofList s) .tooLarge))

theorem amount_read {field raw : String} {s digits : List Char} {radix : Radix} (trimmed : Text.trim raw.toList = s)
    (reads : readMarked s = read radix (bytesOf digits)) (each : Digits radix.base digits) :
    amount field raw = exactly field s (value radix.base digits) := by
  rw [read_digits each] at reads
  unfold amount exactly
  simp only [trimmed, reads]
  split
  · rename_i a said
    split at said
    · rename_i fits
      cases said
      rw [dif_pos fits]
    · cases said
  · rename_i fault said
    split at said
    · cases said
    · rename_i great
      cases said
      rw [dif_neg great]

theorem amount_text (field : String) (a : Amount) : amount field a.text = .ok a := by
  have taken : Taken (Text.trim a.text.toList) a.val := by
    rw [a.trim_text]
    exact .decimal (digits_of_decimal a.isDigit_text) a.value_text
  exact amount_eq_ok.mpr (readMarked_eq_ok.mpr taken)

theorem amount_exact (field : String) {before after : List Char} (blankBefore : ∀ c ∈ before, Text.isBlank c = true)
    (blankAfter : ∀ c ∈ after, Text.isBlank c = true) :
    (∀ digits, (∀ c ∈ digits, c.isDigit = true) →
      amount field (String.ofList (before ++ (digits ++ after))) = exactly field digits (value 10 digits)) ∧
    (∀ mark digits, mark = 'x' ∨ mark = 'X' → (∀ c ∈ digits, (Text.hexValue? c).isSome = true) →
      amount field (String.ofList (before ++ ('0' :: mark :: digits ++ after))) =
        exactly field ('0' :: mark :: digits) (value 16 digits)) ∧
    ∀ raw a, amount field raw = .ok a → amount field a.text = .ok a := by
  refine ⟨?_, ?_, fun _ a _ => amount_text field a⟩
  · intro digits each
    have legal := digits_of_decimal each
    have trimmed : Text.trim (String.ofList (before ++ (digits ++ after))).toList = digits := by
      rw [String.toList_ofList]
      exact Text.trim_between blankBefore (fun c member => Text.isBlank_digit (each c member)) blankAfter
    have reads : readMarked digits = read .decimal (bytesOf digits) := readMarked_unmarked (unmarked_of_digits legal)
    exact amount_read trimmed reads legal
  · intro mark digits known each
    have visible : ∀ c ∈ '0' :: mark :: digits, Text.isBlank c = false := by
      have second : Text.isBlank mark = false := by rcases known with rfl | rfl <;> decide
      have behind : ∀ c ∈ digits, Text.isBlank c = false := fun c member => isBlank_hex (each c member)
      exact List.forall_mem_cons.mpr ⟨by decide, List.forall_mem_cons.mpr ⟨second, behind⟩⟩
    have trimmed : Text.trim (String.ofList (before ++ ('0' :: mark :: digits ++ after))).toList =
        '0' :: mark :: digits := by
      rw [String.toList_ofList]
      exact Text.trim_between blankBefore visible blankAfter
    exact amount_read trimmed (readMarked_marked known digits) (digits_of_hex each)

-- The first number that does not fit, and the last one that does, both behind more zeros than an amount has digits.
theorem amount_exact_bounds :
    (∀ c ∈ ['\u00a0'], Text.isBlank c = true) ∧ (∀ c ∈ ['\u3000', '\n'], Text.isBlank c = true) ∧
    let great := List.replicate 80 '0' ++ Nat.toDigits 10 Amount.size
    let last := List.replicate 80 '0' ++ List.replicate 64 'F'
    amount "amount" (String.ofList (['\u00a0'] ++ (great ++ ['\u3000', '\n']))) =
      .error (.validation "amount" (.amount (String.ofList great) .tooLarge)) ∧
    amount "amount" (String.ofList (['\u00a0'] ++ ('0' :: 'X' :: last ++ ['\u3000', '\n']))) =
      .ok (.ofNat (Amount.size - 1)) := by
  have before : ∀ c ∈ ['\u00a0'], Text.isBlank c = true := List.all_eq_true.mp rfl
  have after : ∀ c ∈ ['\u3000', '\n'], Text.isBlank c = true := List.all_eq_true.mp rfl
  obtain ⟨decimal, hexadecimal, -⟩ := amount_exact "amount" before after
  refine ⟨before, after, ?_, ?_⟩
  · rw [decimal _ (List.all_eq_true.mp (by decide +kernel))]
    exact dif_neg (by decide +kernel)
  · have written : value 16 (List.replicate 80 '0' ++ List.replicate 64 'F') = Amount.size - 1 := by decide +kernel
    rw [hexadecimal 'X' _ (.inr rfl) (List.all_eq_true.mp (by decide +kernel)), exactly, written]
    rfl

end Input

end RouteQuote
