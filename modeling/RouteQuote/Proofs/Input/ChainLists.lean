import Mathlib.Data.List.TakeWhile
import RouteQuote.Input
import RouteQuote.Proofs.Amount.Numerals
import RouteQuote.Proofs.Text.Words

namespace RouteQuote

namespace Text

-- Digits, at least one, perhaps behind a plus sign, and the number that they are.
inductive IsUnsigned : List Char → Nat → Prop where
  | plain {digits : List Char} {n : Nat} (some : digits ≠ []) (each : ∀ c ∈ digits, c.isDigit = true)
      (written : Nat.ofDigitChars 10 digits 0 = n) : IsUnsigned digits n
  | plus {digits : List Char} {n : Nat} (some : digits ≠ []) (each : ∀ c ∈ digits, c.isDigit = true)
      (written : Nat.ofDigitChars 10 digits 0 = n) : IsUnsigned ('+' :: digits) n

variable {bound n : Nat} {s digits : List Char}

-- The number that digits are, if they are digits and it lies below the bound.
def counted (bound : Nat) (digits : List Char) : Option Nat :=
  if digits ≠ [] ∧ digits.all Char.isDigit then
    if Nat.ofDigitChars 10 digits 0 < bound then some (Nat.ofDigitChars 10 digits 0) else none
  else none

theorem counted_eq_some : counted bound digits = some n ↔
    (digits ≠ [] ∧ (∀ c ∈ digits, c.isDigit = true) ∧ Nat.ofDigitChars 10 digits 0 = n) ∧ n < bound := by
  simp only [counted, List.all_eq_true, Option.ite_none_right_eq_some, Option.some.injEq]
  constructor
  · rintro ⟨⟨some, each⟩, small, rfl⟩
    exact ⟨⟨some, each, rfl⟩, small⟩
  · rintro ⟨⟨some, each, rfl⟩, small⟩
    exact ⟨⟨some, each⟩, small, rfl⟩

def withoutPlus (s : List Char) : List Char :=
  match s with
  | '+' :: rest => rest
  | _ => s

theorem withoutPlus_plain (plain : ∀ rest, s ≠ '+' :: rest) : withoutPlus s = s := by
  unfold withoutPlus
  split
  · rename_i rest
    exact absurd rfl (plain rest)
  · rfl

theorem unsigned?_eq (bound : Nat) (s : List Char) : unsigned? bound s = counted bound (withoutPlus s) := rfl

theorem unsigned?_eq_some : unsigned? bound s = some n ↔ IsUnsigned s n ∧ n < bound := by
  rw [unsigned?_eq, counted_eq_some]
  refine and_congr_left fun _ => ?_
  by_cases signed : ∃ rest, s = '+' :: rest
  · obtain ⟨rest, rfl⟩ := signed
    refine ⟨fun ⟨filled, each, written⟩ => .plus filled each written, fun reads => ?_⟩
    cases reads with
    | plain _ each => exact absurd (each '+' List.mem_cons_self) (by decide)
    | plus filled each written => exact ⟨filled, each, written⟩
  · rw [withoutPlus_plain fun rest same => signed ⟨rest, same⟩]
    refine ⟨fun ⟨filled, each, written⟩ => .plain filled each written, fun reads => ?_⟩
    cases reads with
    | plain filled each written => exact ⟨filled, each, written⟩
    | plus => exact absurd ⟨_, rfl⟩ signed

theorem isUnsigned_toDigits (n : Nat) : IsUnsigned (Nat.toDigits 10 n) n :=
  .plain Nat.toDigits_ne_nil (fun _ => Nat.isDigit_of_mem_toDigits (by decide) (by decide)) Nat.ofDigitChars_ten_toDigits

theorem trim_parts (s : List Char) : ∃ before after, (∀ c ∈ before, isBlank c = true) ∧
    (∀ c ∈ after, isBlank c = true) ∧ s = before ++ (trim s ++ after) := by
  let front := s.dropWhile isBlank
  refine ⟨s.takeWhile isBlank, (front.reverse.takeWhile isBlank).reverse, fun c => List.mem_takeWhile_imp,
    fun c member => List.mem_takeWhile_imp (List.mem_reverse.mp member), ?_⟩
  have back : trim s ++ (front.reverse.takeWhile isBlank).reverse = front := by
    rw [trim, ← List.reverse_append, List.takeWhile_append_dropWhile, List.reverse_reverse]
  rw [back, List.takeWhile_append_dropWhile]

end Text

namespace Input

open Text

variable {word : List Char} {id : ChainId} {ids : List ChainId} {fault : ConfigFault} {text raw : String}

def Denotes (word : List Char) (id : ChainId) : Prop := IsUnsigned word id.toNat

-- A word that is no identifier, and the complaint about it.
def Offends (word : List Char) (fault : ConfigFault) : Prop :=
  (∀ id, ¬ Denotes word id) ∧ fault = .chainList (String.ofList word)

theorem chainOfWord_eq_ok : chainOfWord word = .ok id ↔ Denotes word id := by
  have known : unsigned? UInt64.size word = some id.toNat ↔ Denotes word id := by
    rw [unsigned?_eq_some]
    exact and_iff_left id.toNat_lt
  rw [← known]
  unfold chainOfWord
  cases said : unsigned? UInt64.size word with
  | none => exact iff_of_false nofun nofun
  | some n =>
    have small : n < UInt64.size := (unsigned?_eq_some.mp said).2
    rw [Except.ok.injEq, Option.some.injEq]
    constructor
    · rintro rfl
      exact (UInt64.toNat_ofNat_of_lt' small).symm
    · rintro rfl
      exact UInt64.ofNat_toNat

theorem chainOfWord_fails (failed : chainOfWord word = .error fault) : fault = .chainList (String.ofList word) := by
  unfold chainOfWord at failed
  split at failed
  · cases failed
  · exact (Except.error.inj failed).symm

theorem chainOfWord_eq_error : chainOfWord word = .error fault ↔ Offends word fault := by
  constructor
  · intro failed
    refine ⟨fun id denotes => ?_, chainOfWord_fails failed⟩
    cases failed.symm.trans (chainOfWord_eq_ok.mpr denotes)
  · rintro ⟨none, rfl⟩
    cases said : chainOfWord word with
    | ok id => exact absurd (chainOfWord_eq_ok.mp said) (none id)
    | error other => rw [chainOfWord_fails said]

theorem chainList_eq_ok :
    chainList raw = .ok ids ↔ List.Forall₂ Denotes (wordsBy separatesChains raw.toList) ids := by
  unfold chainList
  rw [mapM_eq_ok]
  simp only [chainOfWord_eq_ok]

theorem chainList_eq_error :
    chainList raw = .error fault ↔ FirstFault Offends (wordsBy separatesChains raw.toList) fault := by
  unfold chainList
  rw [mapM_eq_error]
  exact FirstFault.congr fun word _ fault => chainOfWord_eq_error

theorem chainList_passes :
    (∃ ids, chainList raw = .ok ids) ↔ ∀ word ∈ wordsBy separatesChains raw.toList, ∃ id, Denotes word id := by
  unfold chainList
  rw [Except.exists_ok_iff]
  simp only [ne_eq, mapM_eq_error]
  rw [sound_iff]
  refine forall₂_congr fun word _ => ?_
  simp only [← chainOfWord_eq_ok]
  exact Except.exists_ok_iff.symm

theorem chainList_append (a b : String) :
    chainList (a ++ "," ++ b) = do return (← chainList a) ++ (← chainList b) := by
  have parted : (a ++ "," ++ b).toList = a.toList ++ ',' :: b.toList := by simp
  unfold chainList
  rw [parted, wordsBy_append_separator rfl, List.mapM_append]

theorem separates_blank {c : Char} (blank : isBlank c = true) : separatesChains c = true := by
  simp [separatesChains, blank]

-- The blanks around a list do not matter.
theorem chainList_trimmed (raw : String) : chainList (trimmed raw) = chainList raw := by
  obtain ⟨before, after, blankBefore, blankAfter, parted⟩ := trim_parts raw.toList
  have same : wordsBy separatesChains (trim raw.toList) = wordsBy separatesChains raw.toList := by
    conv => rhs; rw [parted]
    rw [wordsBy_gap fun c member => separates_blank (blankBefore c member),
      wordsBy_gap_behind fun c member => separates_blank (blankAfter c member)]
  unfold chainList trimmed
  rw [String.toList_ofList, same]

theorem chainList_blank (blank : trimmed raw = "") : chainList raw = .ok [] := by
  rw [← chainList_trimmed, blank]
  rfl

def Gap (gap : List Char) : Prop := ∀ c ∈ gap, separatesChains c = true

def numeral (id : ChainId) : List Char := (toString id).toList

-- Identifiers in decimal, with separators between them, and perhaps before the first and behind the last.
inductive Joined : List ChainId → List Char → Prop where
  | nothing {gap : List Char} (gaps : Gap gap) : Joined [] gap
  | last {before after : List Char} {id : ChainId} (gapsBefore : Gap before) (gapsAfter : Gap after) :
      Joined [id] (before ++ (numeral id ++ after))
  | more {before between text : List Char} {id next : ChainId} {ids : List ChainId} (gapsBefore : Gap before)
      (some : between ≠ []) (gapsBetween : Gap between) (rest : Joined (next :: ids) text) :
      Joined (id :: next :: ids) (before ++ (numeral id ++ (between ++ text)))

theorem numeral_eq (id : ChainId) : numeral id = Nat.toDigits 10 id.toNat := by
  have written : toString id = String.ofList (Nat.toDigits 10 id.toNat) := Nat.toString_eq_ofList_toDigits
  rw [numeral, written, String.toList_ofList]

theorem denotes_numeral (id : ChainId) : Denotes (numeral id) id := by
  rw [numeral_eq]
  exact isUnsigned_toDigits id.toNat

theorem separates_digit {c : Char} (digit : c.isDigit = true) : separatesChains c = false := by
  have figure : c ≠ ',' := by
    rintro rfl
    cases digit
  simp [separatesChains, figure, isBlank_digit digit]

theorem whole_numeral (id : ChainId) : ∀ c ∈ numeral id, separatesChains c = false := by
  rw [numeral_eq]
  exact fun c member => separates_digit (Nat.isDigit_of_mem_toDigits (by decide) (by decide) member)

theorem numeral_ne_nil (id : ChainId) : numeral id ≠ [] := by
  rw [numeral_eq]
  exact Nat.toDigits_ne_nil

theorem Gap.stops {gap : List Char} (gaps : Gap gap) : Stops separatesChains gap :=
  fun c first => gaps c (List.mem_of_head? first)

theorem Joined.runs {text : List Char} (joined : Joined ids text) : Runs separatesChains text (ids.map numeral) := by
  induction joined with
  | nothing gaps => exact .none gaps
  | last gapsBefore gapsAfter =>
    exact .word gapsBefore (numeral_ne_nil _) (whole_numeral _) gapsAfter.stops (.none gapsAfter)
  | @more before between text id next ids gapsBefore filled gapsBetween rest ih =>
    obtain ⟨c, between, rfl⟩ := List.exists_cons_of_ne_nil filled
    have stops : Stops separatesChains (c :: between ++ text) := stops_cons.mpr (gapsBetween c List.mem_cons_self)
    have indented : Runs separatesChains (c :: between ++ text) (List.map numeral (next :: ids)) := by
      generalize c :: between = gap at gapsBetween
      induction gap with
      | nil => exact ih
      | cons d gap further =>
        obtain ⟨first, others⟩ := List.forall_mem_cons.mp gapsBetween
        exact (further others).indent first
    exact .word gapsBefore (numeral_ne_nil _) (whole_numeral _) stops indented

theorem chainList_joined {text : List Char} (joined : Joined ids text) : chainList (String.ofList text) = .ok ids := by
  rw [chainList_eq_ok, String.toList_ofList, ← joined.runs.eq_wordsBy, List.forall₂_map_left_iff]
  exact List.forall₂_same.mpr fun id _ => denotes_numeral id

theorem chainList_grammar :
    (∀ raw : String, ∃! words, Runs separatesChains raw.toList words) ∧
    (∀ (raw : String) (words : List (List Char)), Runs separatesChains raw.toList words →
      (∀ word, word ∈ words ↔ ∃ before after, IsRun separatesChains raw.toList before word after) ∧
      ((∃ ids, chainList raw = .ok ids) ↔ ∀ word ∈ words, ∃ id, Denotes word id) ∧
      (∀ ids, chainList raw = .ok ids ↔ List.Forall₂ Denotes words ids) ∧
      ∀ fault, chainList raw = .error fault ↔ FirstFault Offends words fault) ∧
    (∀ ids text, Joined ids text → chainList (String.ofList text) = .ok ids) ∧
    ∀ a b, chainList (a ++ "," ++ b) = do return (← chainList a) ++ (← chainList b) := by
  refine ⟨fun raw => ⟨_, runs_wordsBy _ _, fun words => Runs.eq_wordsBy⟩, ?_, fun ids text => chainList_joined,
    chainList_append⟩
  intro raw words runs
  obtain rfl := runs.eq_wordsBy
  exact ⟨fun word => mem_wordsBy, chainList_passes, fun ids => chainList_eq_ok, fun fault => chainList_eq_error⟩

-- The same identifier twice, a number that is one too great, and a word that is no number at all.
def mixedList : String := " 10,\u3000+010 ,18446744073709551616 x"

theorem chainList_grammar_mixed :
    Runs separatesChains mixedList.toList
      [['1', '0'], ['+', '0', '1', '0'], "18446744073709551616".toList, ['x']] ∧
    chainList mixedList = .error (.chainList "18446744073709551616") ∧
    chainList (" 10,\u3000+010 " ++ "," ++ "7") = .ok [10, 10, 7] := by
  obtain ⟨-, grammar, joined, append⟩ := chainList_grammar
  have cut : wordsBy separatesChains mixedList.toList =
      [['1', '0'], ['+', '0', '1', '0'], "18446744073709551616".toList, ['x']] := by decide +kernel
  have runs := cut ▸ runs_wordsBy separatesChains mixedList.toList
  refine ⟨runs, ?_, ?_⟩
  · obtain ⟨-, -, -, failing⟩ := grammar mixedList _ runs
    have great : Offends "18446744073709551616".toList (.chainList "18446744073709551616") :=
      chainOfWord_eq_error.mp (by decide +kernel)
    refine (failing _).mpr ⟨[['1', '0'], ['+', '0', '1', '0']], _, [['x']], rfl, great, ?_⟩
    intro earlier member fault offends
    have ten : chainOfWord earlier = .ok 10 := by
      have words : earlier = ['1', '0'] ∨ earlier = ['+', '0', '1', '0'] := by simpa using member
      rcases words with rfl | rfl <;> decide +kernel
    exact offends.1 10 (chainOfWord_eq_ok.mp ten)
  · have seven : Joined [7] "7".toList := @Joined.last [] [] 7 nofun nofun
    have tens : chainList " 10,\u3000+010 " = .ok [10, 10] := by decide +kernel
    have single : chainList "7" = .ok [7] := joined [7] _ seven
    rw [append, tens, single]
    rfl

end Input

end RouteQuote
