import RouteQuote.Proofs.Json.Unambiguity

namespace RouteQuote.Json

-- A spare comma is allowed in the forms, for the sake of addresses that are arrays.
structure Exact (read : Reader α) (form : List Char → α → Prop) : Prop where
  formed : ∀ {t a}, form t a → Formed true t
  sound : ∀ {s a rest}, read s = .ok (a, rest) → ∃ gap t, Blank gap ∧ s = gap ++ (t ++ rest) ∧ form t a
  complete : ∀ {gap t a rest}, Blank gap → form t a → Ended t rest → read (gap ++ (t ++ rest)) = .ok (a, rest)

theorem apart_nil : Apart [] := nofun

namespace Exact

variable {read : Reader α} {form : List Char → α → Prop} {t : List Char} {a a' : α}

theorem meaning (exact : Exact read form) (fits : form t a) (fits' : form t a') : a = a' := by
  have first := exact.complete blank_nil fits apart_nil.ended
  rw [exact.complete blank_nil fits' apart_nil.ended] at first
  cases first
  rfl

-- Without blanks in front.
theorem front (exact : Exact read form) {rest : List Char} (fits : form t a) (ended : Ended t rest) :
    read (t ++ rest) = .ok (a, rest) := exact.complete blank_nil fits ended

end Exact

-- The text of a scalar and the value it is read as, as far as anybody looks at it.
inductive Plain : List Char → Json → Prop where
  | nullText : Plain ['n', 'u', 'l', 'l'] .null
  | trueText : Plain ['t', 'r', 'u', 'e'] (.bool true)
  | falseText : Plain ['f', 'a', 'l', 's', 'e'] (.bool false)
  | string {t : List Char} {s : String} (quoted : Quoted t s) : Plain t (.string s)
  | natural {t : List Char} (whole : Whole t) : Plain t (.int (Nat.ofDigitChars 10 t 0))
  | below {t : List Char} {n : Int} (numeral : Numeral t) (negative : n < 0) : Plain t (.int n)
  | float {t : List Char} {x : Binary64} (numeral : Numeral t) : Plain t (.float x)

inductive Scalar : List Char → Prop where
  | nullText : Scalar ['n', 'u', 'l', 'l']
  | trueText : Scalar ['t', 'r', 'u', 'e']
  | falseText : Scalar ['f', 'a', 'l', 's', 'e']
  | string {t : List Char} {s : String} (quoted : Quoted t s) : Scalar t
  | number {t : List Char} (numeral : Numeral t) : Scalar t

theorem Whole.numeral {t : List Char} (whole : Whole t) : Numeral t := by
  have unsigned := Unsigned.parts whole .none .none
  rw [List.append_nil, List.append_nil] at unsigned
  exact .positive unsigned

theorem Plain.scalar {t : List Char} {j : Json} (plain : Plain t j) : Scalar t := by
  cases plain with
  | nullText => exact .nullText
  | trueText => exact .trueText
  | falseText => exact .falseText
  | string quoted => exact .string quoted
  | natural whole => exact .number whole.numeral
  | below numeral _ => exact .number numeral
  | float numeral => exact .number numeral

def ByteText (t : List Char) (n : Nat) : Prop := Whole t ∧ Nat.ofDigitChars 10 t 0 = n ∧ n < 256

theorem Plain.byteText {t : List Char} {n : Nat} (plain : Plain t (.int n)) (small : n < 256) : ByteText t n := by
  generalize same : (n : Int) = m at plain
  cases plain with
  | natural whole => exact ⟨whole, (Int.ofNat.inj same).symm, small⟩
  | below _ negative => omega

theorem Scalar.formed {spare : Bool} {t : List Char} (scalar : Scalar t) : Formed spare t := by
  cases scalar with
  | nullText => exact .nullText
  | trueText => exact .trueText
  | falseText => exact .falseText
  | string quoted => exact .string quoted.loosen
  | number numeral => exact .number numeral

namespace Reader

variable {s rest : List Char}

theorem number_plain {negative : Bool} {j : Json} (said : number negative s = .ok (j, rest)) :
    ∃ t, s = t ++ rest ∧ Plain (if negative then '-' :: t else t) j := by
  obtain ⟨t, rfl, unsigned, ⟨n, rfl⟩ | ⟨x, rfl⟩⟩ := number_eq_ok said
  · obtain ⟨rfl, w, same, whole, rfl⟩ | ⟨rfl, below⟩ := number_eq_int said
    · obtain rfl := List.append_cancel_right same
      exact ⟨t, rfl, .natural whole⟩
    · exact ⟨t, rfl, .below (.negative unsigned) below⟩
  · cases negative with
    | true => exact ⟨t, rfl, .float (.negative unsigned)⟩
    | false => exact ⟨t, rfl, .float (.positive unsigned)⟩

theorem value_eq_ok {j : Json} (said : value 1 s = .ok (j, rest)) :
    ∃ gap t, Blank gap ∧ s = gap ++ (t ++ rest) ∧ Plain t j := by
  rw [value, opening_bind_eq_ok] at said
  obtain ⟨gap, c, tail, blank, visible, rfl, said⟩ := said
  suffices front : ∃ t, c :: tail = t ++ rest ∧ Plain t j by
    obtain ⟨t, front, plain⟩ := front
    exact ⟨gap, t, blank, congrArg _ front, plain⟩
  split at said
  · rename_i named
    subst named
    obtain ⟨front, rfl⟩ := advance_literal_return said
    exact ⟨_, front, .nullText⟩
  split at said
  · rename_i named
    subst named
    obtain ⟨front, rfl⟩ := advance_literal_return said
    exact ⟨_, front, .trueText⟩
  split at said
  · rename_i named
    subst named
    obtain ⟨front, rfl⟩ := advance_literal_return said
    exact ⟨_, front, .falseText⟩
  split at said
  · rename_i quote
    subst quote
    rw [bind_ok (advance_ok _ _), bind_eq_ok] at said
    obtain ⟨text, mid, ran, made⟩ := said
    obtain ⟨t, rfl, closed⟩ := (stringBody_takes _ _ _).mp ran
    cases made
    exact ⟨_, rfl, .string ⟨t, rfl, closed⟩⟩
  split at said
  · rename_i minus
    subst minus
    rw [bind_ok (advance_ok _ _)] at said
    obtain ⟨t, rfl, plain⟩ := number_plain said
    exact ⟨_, rfl, plain⟩
  split at said
  · obtain ⟨t, front, plain⟩ := number_plain said
    exact ⟨t, front, plain⟩
  split at said
  · rename_i nested
    exact absurd rfl nested.2
  split at said
  · rename_i nested
    exact absurd rfl nested.2
  · cases said

theorem value_digit {c : Char} (digit : c.isDigit = true) {gap : List Char} (blank : Blank gap) (s : List Char) :
    value 1 (gap ++ c :: s) = number false (c :: s) := by
  have visible : isSpace c = false := (startsNumber_visible (by simp [startsNumber, digit])).1
  rw [value, bind_ok (opening_blank blank visible s), if_neg (digit_ne digit rfl), if_neg (digit_ne digit rfl),
    if_neg (digit_ne digit rfl), if_neg (digit_ne digit rfl), if_neg (digit_ne digit rfl), if_pos digit]

-- A number may be too great to be held; every other scalar is read.
theorem value_scalar {gap t : List Char} (blank : Blank gap) (scalar : Scalar t) (ended : Ended t rest) :
    (∃ j, value 1 (gap ++ (t ++ rest)) = .ok (j, rest)) ∨
      Numeral t ∧ value 1 (gap ++ (t ++ rest)) = .error .malformed := by
  cases scalar with
  | nullText =>
    refine .inl ⟨.null, ?_⟩
    rw [List.cons_append, value, bind_ok (opening_blank blank rfl _)]
    rfl
  | trueText =>
    refine .inl ⟨.bool true, ?_⟩
    rw [List.cons_append, value, bind_ok (opening_blank blank rfl _)]
    rfl
  | falseText =>
    refine .inl ⟨.bool false, ?_⟩
    rw [List.cons_append, value, bind_ok (opening_blank blank rfl _)]
    rfl
  | @string _ s quoted =>
    obtain ⟨u, rfl, closed⟩ := quoted
    refine .inl ⟨.string s, ?_⟩
    rw [List.cons_append, value, bind_ok (opening_blank blank rfl _)]
    have body := bind_ok (stringBody_takes.ok closed rest) fun text => pure (Json.string text)
    exact body
  | number numeral =>
    have apart : Apart rest := by
      obtain ⟨c, u, shape, starts⟩ := numeral.head
      exact ended ⟨c, by rw [shape]; rfl, starts⟩
    have outcome : (∃ j, value 1 (gap ++ (t ++ rest)) = .ok (j, rest)) ∨
        value 1 (gap ++ (t ++ rest)) = .error .malformed := by
      cases numeral with
      | positive unsigned =>
        have read := number_unsigned false unsigned apart
        obtain ⟨c, u, rfl, digit⟩ := unsigned.head
        rw [List.cons_append, value_digit digit blank]
        exact read
      | @negative t unsigned =>
        have minus : value 1 (gap ++ '-' :: (t ++ rest)) = number true (t ++ rest) := by
          rw [value, bind_ok (opening_blank blank rfl _)]
          rfl
        rw [List.cons_append, minus]
        exact number_unsigned true unsigned apart
    exact outcome.imp_right fun great => ⟨numeral, great⟩

theorem exact_text : Exact text Quoted where
  formed quoted := .string quoted.loosen
  sound := by
    intro s a rest said
    rw [text, opening_bind_eq_ok] at said
    obtain ⟨gap, c, tail, blank, visible, rfl, said⟩ := said
    split at said
    · rename_i quote
      subst quote
      rw [bind_ok (advance_ok _ _)] at said
      obtain ⟨t, rfl, closed⟩ := (stringBody_takes _ _ _).mp said
      exact ⟨gap, '"' :: t, blank, rfl, t, rfl, closed⟩
    · obtain ⟨_, _, _, said⟩ := bind_eq_ok.mp said
      cases said
  complete := by
    rintro gap t a rest blank ⟨u, rfl, closed⟩ -
    rw [List.cons_append, text, bind_ok (opening_blank blank rfl _)]
    exact stringBody_takes.ok closed rest

def FlagText (t : List Char) (b : Bool) : Prop :=
  t = ['t', 'r', 'u', 'e'] ∧ b = true ∨ t = ['f', 'a', 'l', 's', 'e'] ∧ b = false

theorem exact_flag : Exact flag FlagText where
  formed := by
    rintro t b (⟨rfl, rfl⟩ | ⟨rfl, rfl⟩)
    · exact .trueText
    · exact .falseText
  sound := by
    intro s a rest said
    rw [flag, opening_bind_eq_ok] at said
    obtain ⟨gap, c, tail, blank, visible, rfl, said⟩ := said
    split at said
    · obtain ⟨j, mid, ran, made⟩ := bind_eq_ok.mp said
      split at made
      · cases made
        obtain ⟨between, t, none, front, plain⟩ := value_eq_ok ran
        refine ⟨gap ++ between, t, blank.append none, by rw [front, List.append_assoc], ?_⟩
        cases plain with
        | trueText => exact .inl ⟨rfl, rfl⟩
        | falseText => exact .inr ⟨rfl, rfl⟩
      · cases made
    · obtain ⟨_, _, _, said⟩ := bind_eq_ok.mp said
      cases said
  complete := by
    rintro gap t b rest blank (⟨rfl, rfl⟩ | ⟨rfl, rfl⟩) -
    · rw [List.cons_append, flag, bind_ok (opening_blank blank rfl _)]
      rfl
    · rw [List.cons_append, flag, bind_ok (opening_blank blank rfl _)]
      rfl

def AmountText (t : List Char) (a : Amount) : Prop := ∃ s, Quoted t s ∧ Amount.readAnyRadix (Text.trim s.toList) = .ok a

theorem exact_amount : Exact amount AmountText where
  formed := by
    rintro t a ⟨s, quoted, _⟩
    exact exact_text.formed quoted
  sound := by
    intro s a rest said
    rw [amount, bind_eq_ok] at said
    obtain ⟨text, mid, ran, said⟩ := said
    obtain ⟨gap, t, blank, rfl, quoted⟩ := exact_text.sound ran
    cases value : Amount.readAnyRadix (Text.trim text.toList) with
    | ok b =>
      rw [value] at said
      cases said
      exact ⟨gap, t, blank, rfl, text, quoted, value⟩
    | error fault =>
      rw [value] at said
      cases said
  complete := by
    rintro gap t a rest blank ⟨s, quoted, value⟩ ended
    rw [amount, bind_ok (exact_text.complete blank quoted ended), value]
    rfl

theorem found_eq_scalar {j : Json} (said : found s = .ok (.scalar j, rest)) :
    ∃ gap u, Blank gap ∧ s = gap ++ u ∧ value 1 u = .ok (j, rest) := by
  rw [found, opening_bind_eq_ok] at said
  obtain ⟨gap, c, tail, blank, visible, rfl, said⟩ := said
  split at said
  · cases said
  split at said
  · cases said
  obtain ⟨k, after, ran, made⟩ := bind_eq_ok.mp said
  cases made
  exact ⟨gap, c :: tail, blank, rfl, ran⟩

theorem byte_eq_ok {n : Nat} (said : byte s = .ok (n, rest)) :
    ∃ gap u, Blank gap ∧ s = gap ++ u ∧ value 1 u = .ok (.int n, rest) ∧ n < 256 := by
  rw [byte, natural, bind_eq_ok] at said
  obtain ⟨what, mid, ran, said⟩ := said
  split at said
  · split at said
    · rename_i fits
      cases said
      obtain ⟨gap, u, blank, front, read⟩ := found_eq_scalar ran
      refine ⟨gap, u, blank, front, ?_, by omega⟩
      rw [read, Int.toNat_of_nonneg fits.1]
    · cases said
  · cases said

theorem exact_byte : Exact byte ByteText where
  formed := by
    rintro t n ⟨whole, _⟩
    exact .number whole.numeral
  sound := by
    intro s n rest said
    obtain ⟨gap, u, blank, rfl, value, small⟩ := byte_eq_ok said
    obtain ⟨between, t, none, rfl, plain⟩ := value_eq_ok value
    exact ⟨gap ++ between, t, blank.append none, by simp, plain.byteText small⟩
  complete := by
    rintro gap t n rest blank ⟨whole, value, small⟩ ended
    have apart : Apart rest := by
      obtain ⟨c, u, rfl, starts⟩ := whole.numeral.head
      exact ended ⟨c, rfl, starts⟩
    have read := number_natural whole apart (by rw [value]; exact Nat.lt_trans small (by decide))
    rw [value] at read
    cases t with
    | nil => exact absurd rfl whole.digits.some
    | cons c t =>
      have digit := whole.digits.each c List.mem_cons_self
      have visible : isSpace c = false := (startsNumber_visible (by simp [startsNumber, digit])).1
      have seen : found (gap ++ (c :: t ++ rest)) = .ok (.scalar (.int n), rest) := by
        rw [List.cons_append, found, bind_ok (opening_blank blank visible _), if_neg (digit_ne digit rfl),
          if_neg (digit_ne digit rfl)]
        have scalar := bind_ok ((value_digit digit blank_nil (t ++ rest)).trans read) fun j => pure (Found.scalar j)
        exact scalar
      rw [byte, natural, bind_ok seen]
      dsimp only
      rw [if_pos ⟨Int.natCast_nonneg n, by omega⟩]
      rfl

theorem blank_eq_nil {gap u w : List Char} {c : Char} (blank : Blank gap) (visible : isSpace c = false)
    (same : gap ++ u = c :: w) : gap = [] := by
  cases gap with
  | nil => rfl
  | cons d gap =>
    obtain ⟨space, -⟩ : isSpace d = true ∧ Blank gap := by simpa [Blank] using blank
    rw [(List.cons.inj same).1, visible] at space
    cases space

-- A scalar that is read as a byte is one.
theorem byte_scalar {t : List Char} (scalar : Scalar t) (ended : Ended t rest) {n : Nat} {after : List Char}
    (said : byte (t ++ rest) = .ok (n, after)) : ByteText t n := by
  obtain ⟨c, u, shape, visible, -⟩ := (scalar.formed : Formed true t).head
  obtain ⟨gap, v, blank, front, value, small⟩ := byte_eq_ok said
  obtain rfl := blank_eq_nil blank visible (by rw [← front, shape]; rfl)
  rw [List.nil_append] at front
  rw [← front] at value
  obtain ⟨j, read⟩ | ⟨-, great⟩ := value_scalar blank_nil scalar ended
  · rw [List.nil_append, value] at read
    cases read
    obtain ⟨gap, t', blank, same, plain⟩ := value_eq_ok value
    obtain rfl := blank_eq_nil blank visible (by rw [← same, shape]; rfl)
    obtain rfl := List.append_cancel_right same
    exact plain.byteText small
  · rw [List.nil_append, value] at great
    cases great

theorem Valid.scalar {c : Char} {u : List Char} (valid : Valid (c :: u)) (noQuote : c ≠ '"') (noBracket : c ≠ '[')
    (noBrace : c ≠ '\x7b') : Scalar (c :: u) := by
  cases valid with
  | nullText => exact .nullText
  | trueText => exact .trueText
  | falseText => exact .falseText
  | string quoted => exact absurd quoted.quote noQuote
  | number numeral => exact .number numeral
  | array => exact absurd rfl noBracket
  | object => exact absurd rfl noBrace

theorem opening_visible {c : Char} (visible : isSpace c = false) (u : List Char) : opening (c :: u) = .ok (c, c :: u) :=
  opening_blank blank_nil visible u

theorem passScalar_eq_ok {c : Char} {u : List Char} (visible : isSpace c = false)
    (noBracket : c ≠ '[') (noBrace : c ≠ '\x7b')
    (said : passScalar (c :: u) = .ok ((), rest)) : ∃ t, c :: u = t ++ rest ∧ Scalar t := by
  rw [passScalar, bind_ok (opening_visible visible u), bind_ok get_ok] at said
  cases read : value 1 (c :: u) with
  | ok outcome =>
    obtain ⟨j, after⟩ := outcome
    rw [read] at said
    cases said
    obtain ⟨gap, t, blank, front, plain⟩ := value_eq_ok read
    obtain rfl := blank_eq_nil blank visible front.symm
    exact ⟨t, front, plain.scalar⟩
  | error fault =>
    rw [read] at said
    dsimp only at said
    split at said
    · rename_i great
      obtain ⟨gap, t, blank, front, valid⟩ := skip_eq_ok said
      obtain rfl := blank_eq_nil blank visible front.symm
      obtain ⟨d, v, rfl, -⟩ := valid.head
      obtain ⟨rfl, -⟩ := List.cons.inj front
      exact ⟨_, front, Valid.scalar valid great.2 noBracket noBrace⟩
    · cases said

theorem passScalar_scalar {t : List Char} (scalar : Scalar t) (ended : Ended t rest) :
    passScalar (t ++ rest) = .ok ((), rest) := by
  have outcome := value_scalar blank_nil scalar ended
  have skipped := skip_valid blank_nil scalar.formed ended
  rw [List.nil_append] at outcome skipped
  obtain ⟨c, u, rfl, visible, -⟩ := (scalar.formed : Formed true t).head
  rw [List.cons_append] at outcome skipped ⊢
  rw [passScalar, bind_ok (opening_visible visible _), bind_ok get_ok]
  obtain ⟨j, read⟩ | ⟨numeral, great⟩ := outcome
  · rw [read]
    rfl
  · rw [great]
    dsimp only
    have noQuote : c ≠ '"' := by
      rintro rfl
      cases numeral.starts
    rw [if_pos ⟨rfl, noQuote⟩, skipped]

end Reader

end RouteQuote.Json
