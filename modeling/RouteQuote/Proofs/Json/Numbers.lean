import RouteQuote.Proofs.Amount.Numerals
import RouteQuote.Proofs.Json.Scan

namespace RouteQuote.Json

def afterDigits (s : List Char) : Option (List Char) :=
  if (s.takeWhile Char.isDigit).isEmpty then none else some (s.dropWhile Char.isDigit)

def afterWhole (s : List Char) : Option (List Char) :=
  let ds := s.takeWhile Char.isDigit
  if ds.isEmpty || (ds.head? == some '0' && 1 < ds.length) then none else some (s.dropWhile Char.isDigit)

def afterFraction : List Char → Option (List Char)
  | '.' :: rest => afterDigits rest
  | s => some s

def afterSign : List Char → List Char
  | '+' :: rest => rest
  | '-' :: rest => rest
  | s => s

def afterExponent : List Char → Option (List Char)
  | [] => some []
  | c :: rest => if c = 'e' ∨ c = 'E' then afterDigits (afterSign rest) else some (c :: rest)

def afterNumber (s : List Char) : Option (List Char) := do afterExponent (← afterFraction (← afterWhole s))

def noDigit (rest : List Char) : Prop := ∀ c ∈ rest.head?, c.isDigit = false

variable {s rest : List Char}

theorem Apart.noDigit (apart : Apart rest) : noDigit rest := by
  intro c head
  have other := apart c head
  simp only [goesOn, Bool.or_eq_false_iff] at other
  exact other.1.1.1

theorem takeWhile_digits {ds : List Char} (each : ∀ c ∈ ds, c.isDigit = true) (stops : noDigit rest) :
    (ds ++ rest).takeWhile Char.isDigit = ds := by
  rw [List.takeWhile_append_of_pos each]
  cases rest with
  | nil => exact List.append_nil ds
  | cons c rest => rw [List.takeWhile_cons_of_neg (by simp [stops c rfl]), List.append_nil]

theorem dropWhile_digits {ds : List Char} (each : ∀ c ∈ ds, c.isDigit = true) (stops : noDigit rest) :
    (ds ++ rest).dropWhile Char.isDigit = rest := by
  rw [List.dropWhile_append_of_pos each]
  cases rest with
  | nil => rfl
  | cons c rest => rw [List.dropWhile_cons_of_neg (by simp [stops c rfl])]

theorem digits_takeWhile (some : (s.takeWhile Char.isDigit).isEmpty = false) : Digits (s.takeWhile Char.isDigit) :=
  ⟨List.isEmpty_eq_false_iff.mp some, fun _ member => List.mem_takeWhile_imp member⟩

theorem afterDigits_eq_some (left : afterDigits s = some rest) : ∃ ds, s = ds ++ rest ∧ Digits ds := by
  rw [afterDigits] at left
  split at left
  · cases left
  · rename_i some
    cases left
    exact ⟨_, List.takeWhile_append_dropWhile.symm, digits_takeWhile (by simpa using some)⟩

theorem afterDigits_digits {ds : List Char} (digits : Digits ds) (stops : noDigit rest) :
    afterDigits (ds ++ rest) = some rest := by
  rw [afterDigits, takeWhile_digits digits.each stops, dropWhile_digits digits.each stops]
  simp [digits.some]

theorem whole_iff {t : List Char} (digits : Digits t) :
    Whole t ↔ ¬ (t.head? = some '0' ∧ 1 < t.length) := by
  constructor
  · rintro ⟨-, leading⟩ ⟨zero, long⟩
    rw [leading zero] at long
    exact absurd long (by decide)
  · intro short
    refine ⟨digits, fun zero => ?_⟩
    cases t with
    | nil => cases zero
    | cons c t =>
      cases zero
      cases t with
      | nil => rfl
      | cons d t => exact absurd ⟨rfl, by simp⟩ short

theorem noDigit_dropWhile (s : List Char) : noDigit (s.dropWhile Char.isDigit) := by
  intro c head
  have stopped := List.head?_dropWhile_not Char.isDigit s
  rw [Option.mem_def.mp head] at stopped
  simpa using stopped

theorem afterWhole_eq_some (left : afterWhole s = some rest) : ∃ w, s = w ++ rest ∧ Whole w ∧ noDigit rest := by
  simp only [afterWhole] at left
  split at left
  · cases left
  · rename_i fits
    simp only [Bool.or_eq_true, Bool.and_eq_true, beq_iff_eq, decide_eq_true_eq, not_or, Bool.not_eq_true] at fits
    cases left
    have whole := (whole_iff (digits_takeWhile fits.1)).mpr fits.2
    exact ⟨_, List.takeWhile_append_dropWhile.symm, whole, noDigit_dropWhile s⟩

theorem afterWhole_whole {w : List Char} (whole : Whole w) (stops : noDigit rest) :
    afterWhole (w ++ rest) = some rest := by
  have short := (whole_iff whole.digits).mp whole
  simp only [afterWhole, takeWhile_digits whole.digits.each stops, dropWhile_digits whole.digits.each stops]
  refine if_neg ?_
  simp only [Bool.or_eq_true, Bool.and_eq_true, beq_iff_eq, decide_eq_true_eq, not_or]
  exact ⟨by simp [whole.digits.some], short⟩

theorem afterFraction_eq_some (left : afterFraction s = some rest) : ∃ f, s = f ++ rest ∧ Fraction f := by
  unfold afterFraction at left
  split at left
  · obtain ⟨ds, rfl, digits⟩ := afterDigits_eq_some left
    exact ⟨_, rfl, .some digits⟩
  · cases left
    exact ⟨[], rfl, .none⟩

theorem afterFraction_fraction {f : List Char} (fraction : Fraction f) (stops : noDigit rest)
    (point : rest.head? ≠ some '.') : afterFraction (f ++ rest) = some rest := by
  cases fraction with
  | none =>
    rw [List.nil_append]
    unfold afterFraction
    split
    · exact (point rfl).elim
    · rfl
  | some digits => exact afterDigits_digits digits stops

theorem afterSign_append (s : List Char) :
    ∃ sign, s = sign ++ afterSign s ∧ (sign = [] ∨ sign = ['+'] ∨ sign = ['-']) := by
  unfold afterSign
  split
  · exact ⟨['+'], rfl, .inr (.inl rfl)⟩
  · exact ⟨['-'], rfl, .inr (.inr rfl)⟩
  · exact ⟨[], rfl, .inl rfl⟩

theorem afterSign_digits {sign ds : List Char} (signed : sign = [] ∨ sign = ['+'] ∨ sign = ['-']) (digits : Digits ds) :
    afterSign (sign ++ (ds ++ rest)) = ds ++ rest := by
  obtain rfl | rfl | rfl := signed
  · cases ds with
    | nil => exact absurd rfl digits.some
    | cons c ds =>
      have digit := digits.each c List.mem_cons_self
      simp only [List.nil_append, List.cons_append, afterSign]
      -- No digit is a sign.
      split
      · rename_i sign
        cases sign
        cases digit
      · rename_i sign
        cases sign
        cases digit
      · rfl
  · rfl
  · rfl

theorem afterExponent_eq_some (left : afterExponent s = some rest) : ∃ e, s = e ++ rest ∧ Exponent e := by
  unfold afterExponent at left
  split at left
  · cases left
    exact ⟨[], rfl, .none⟩
  · rename_i mark after
    split at left
    · rename_i marked
      obtain ⟨sign, signed, kinds⟩ := afterSign_append after
      obtain ⟨ds, split, digits⟩ := afterDigits_eq_some left
      refine ⟨mark :: (sign ++ ds), ?_, .some marked kinds digits⟩
      rw [signed, split]
      simp
    · cases left
      exact ⟨[], rfl, .none⟩

theorem afterExponent_exponent {e : List Char} (exponent : Exponent e) (apart : Apart rest) :
    afterExponent (e ++ rest) = some rest := by
  cases exponent with
  | none =>
    cases rest with
    | nil => rfl
    | cons c rest =>
      refine if_neg ?_
      have other := apart c rfl
      rintro (rfl | rfl) <;> cases other
  | some marked signed digits =>
    rw [List.cons_append, List.append_assoc, afterExponent, if_pos marked, afterSign_digits signed digits,
      afterDigits_digits digits apart.noDigit]

theorem afterFraction_plain (point : ∀ more, s = '.' :: more → False) : afterFraction s = some s := by
  unfold afterFraction
  split
  · exact (point _ rfl).elim
  · rfl

theorem afterExponent_plain (small : ∀ more, s = 'e' :: more → False) (great : ∀ more, s = 'E' :: more → False) :
    afterExponent s = some s := by
  cases s with
  | nil => rfl
  | cons c s =>
    refine if_neg ?_
    rintro (rfl | rfl)
    · exact small _ rfl
    · exact great _ rfl

theorem afterNumber_eq_some (left : afterNumber s = some rest) : ∃ t, s = t ++ rest ∧ Unsigned t := by
  simp only [afterNumber, Option.bind_eq_bind, Option.bind_eq_some_iff] at left
  obtain ⟨_, left, _, leftThen, leftLast⟩ := left
  obtain ⟨w, rfl, whole, -⟩ := afterWhole_eq_some left
  obtain ⟨f, rfl, fraction⟩ := afterFraction_eq_some leftThen
  obtain ⟨e, rfl, exponent⟩ := afterExponent_eq_some leftLast
  exact ⟨w ++ (f ++ e), by simp, .parts whole fraction exponent⟩

theorem exponent_head {e : List Char} (exponent : Exponent e) (apart : Apart rest) :
    noDigit (e ++ rest) ∧ (e ++ rest).head? ≠ some '.' := by
  cases exponent with
  | none =>
    refine ⟨apart.noDigit, fun point => ?_⟩
    cases apart '.' point
  | some marked =>
    refine ⟨?_, ?_⟩
    · intro c head
      cases head
      obtain rfl | rfl := marked <;> rfl
    · rintro ⟨⟩
      obtain mark | mark := marked <;> cases mark

theorem fraction_head {f : List Char} (fraction : Fraction f) (stops : noDigit rest) : noDigit (f ++ rest) := by
  cases fraction with
  | none => exact stops
  | some =>
    intro c head
    cases head
    rfl

theorem afterNumber_unsigned {t : List Char} (unsigned : Unsigned t) (apart : Apart rest) :
    afterNumber (t ++ rest) = some rest := by
  obtain ⟨whole, fraction, exponent⟩ := unsigned
  obtain ⟨stops, point⟩ := exponent_head exponent apart
  rw [List.append_assoc, List.append_assoc, afterNumber, afterWhole_whole whole (fraction_head fraction stops)]
  rw [Option.bind_eq_bind, Option.bind_some, afterFraction_fraction fraction stops point]
  exact afterExponent_exponent exponent apart

namespace Reader

theorem digits_ok (s : List Char) : digits s = .ok (s.takeWhile Char.isDigit, s.dropWhile Char.isDigit) := rfl

-- What the reader leaves is what is computed as left. A number too great is malformed as well.
inductive Left (fits : α → Prop) : Except Fault (α × List Char) → Option (List Char) → Prop where
  | read {a : α} (fit : fits a) (rest : List Char) : Left fits (.ok (a, rest)) (some rest)
  | malformed (left : Option (List Char)) : Left fits (.error .malformed) left
  | unfinished : Left fits (.error .unfinished) none

def Leaves (fits : α → Prop) (read : Reader α) (left : List Char → Option (List Char)) : Prop :=
    ∀ s, Left fits (read s) (left s)

-- The text under another name, so that a case split on it leaves the state alone.
theorem get_bind (α : Type) (s : List Char) :
    ∃ state, state = s ∧ ∀ next : List Char → Reader α, (get >>= next) s = next s state :=
  ⟨s, rfl, fun _ => rfl⟩

variable {fits : α → Prop}

theorem leaves_digits {next : List Char → Reader α} {left : List Char → Option (List Char)}
    (leaves : ∀ ds, Leaves fits (next ds) left) : Leaves fits (do
      let ds ← digits
      if ds.isEmpty then
        match ← get with
        | [] => throw .unfinished
        | _ => throw .malformed
      next ds) fun s => (afterDigits s).bind left := by
  intro s
  dsimp only
  rw [bind_ok (digits_ok s), afterDigits]
  split
  · rw [bind_ok get_ok]
    cases s.dropWhile Char.isDigit with
    | nil => exact .unfinished
    | cons c rest => exact .malformed _
  · exact leaves _ _

theorem leaves_sign {next : Bool → Reader α} {left : List Char → Option (List Char)}
    (leaves : ∀ down, Leaves fits (next down) left) : Leaves fits (do
      let down ← match ← get with
        | '+' :: rest => set rest; pure false
        | '-' :: rest => set rest; pure true
        | _ => pure false
      next down) fun s => left (afterSign s) := by
  intro s
  obtain ⟨state, same, run⟩ := get_bind _ s
  dsimp only
  rw [run]
  unfold afterSign
  split
  · exact leaves false _
  · exact leaves true _
  · rw [same]
    exact leaves false _

def floating (j : Json) : Prop := ∃ x, j = .float x

theorem floatOf_leaves (negative : Bool) (n : Nat) (e : Int) : Leaves floating (floatOf negative n e) some := by
  intro s
  rw [floatOf]
  generalize (Binary64.ofNat? false n).bind _ = scaled
  cases scaled with
  | some y => exact .read ⟨_, rfl⟩ _
  | none => exact .malformed _

theorem exponentPart_leaves (negative : Bool) (n : Nat) (e : Int) :
    Leaves floating (exponentPart negative n e) fun s => afterDigits (afterSign s) := by
  suffices leaves : Leaves floating (exponentPart negative n e) fun s => (afterDigits (afterSign s)).bind some by
    simpa only [Option.bind_fun_some] using leaves
  refine leaves_sign fun down => leaves_digits fun ds s => ?_
  cases exponentValue ds with
  | some k => exact floatOf_leaves _ _ _ s
  | none =>
    dsimp only
    split
    · exact .read ⟨_, rfl⟩ _
    · exact .malformed _

theorem fractionPart_leaves (negative : Bool) (n : Nat) (e : Int) :
    Leaves floating (fractionPart negative n e) fun s => (afterDigits s).bind afterExponent := by
  refine leaves_digits fun ds s => ?_
  cases s with
  | nil => exact floatOf_leaves _ _ _ []
  | cons mark rest =>
    rw [bind_ok get_ok, afterExponent]
    dsimp only
    split
    · exact exponentPart_leaves _ _ _ rest
    · exact floatOf_leaves _ _ _ _

theorem afterWhole_cons {c : Char} (digit : c.isDigit = true) (s : List Char) : afterWhole (c :: s) =
    if c = '0' ∧ 1 < ((c :: s).takeWhile Char.isDigit).length then none
    else some ((c :: s).dropWhile Char.isDigit) := by
  simp only [afterWhole, List.takeWhile_cons_of_pos digit]
  simp

theorem number_none (negative : Bool) (none : afterWhole s = none) :
    number negative s = .error .malformed ∨ number negative s = .error .unfinished := by
  cases s with
  | nil => exact .inr rfl
  | cons c s =>
    left
    rw [number, bind_ok get_ok]
    dsimp only
    cases digit : c.isDigit with
    | false => rfl
    | true =>
      rw [afterWhole_cons digit] at none
      split at none
      · rename_i zero
        rw [if_neg (by decide), bind_ok (digits_ok _), if_pos zero]
        rfl
      · cases none

theorem significant_zero {ds : List Char} {n : Nat} (none : (significant ds n).2 = 0) :
    (significant ds n).1 = Nat.ofDigitChars 10 ds n := by
  induction ds generalizing n with
  | nil => rfl
  | cons c ds ih =>
    rw [significant] at none ⊢
    split at none
    · rename_i fits
      rw [if_pos fits, Nat.ofDigitChars_cons]
      exact ih none
    · cases none

theorem significant_small {ds : List Char} {n : Nat} (small : Nat.ofDigitChars 10 ds n < UInt64.size) :
    significant ds n = (Nat.ofDigitChars 10 ds n, 0) := by
  induction ds generalizing n with
  | nil => rfl
  | cons c ds ih =>
    rw [Nat.ofDigitChars_cons] at small ⊢
    have reach := Amount.le_ofDigitChars ds (10 * n + (c.toNat - '0'.toNat))
    exact (if_pos (Nat.lt_of_le_of_lt reach small)).trans (ih small)

-- What follows the digits in front, of which some are left out of the value.
def numberTail (negative : Bool) (n left : Nat) : Reader Json := do
  match ← get with
  | '.' :: rest => set rest; fractionPart negative n left
  | 'e' :: rest => set rest; exponentPart negative n left
  | 'E' :: rest => set rest; exponentPart negative n left
  | _ =>
    if left ≠ 0 then floatOf negative n left
    else if !negative then return .int n
    else if n = 0 then return .float (Binary64.zero true)
    else if n ≤ Nat.pow 2 63 then return .int (-n)
    else floatOf true n 0

theorem number_whole (negative : Bool) {w : List Char} (whole : Whole w) (stops : noDigit rest) :
    number negative (w ++ rest) = numberTail negative (significant w 0).1 (significant w 0).2 rest := by
  have taken := takeWhile_digits whole.digits.each stops
  have left := dropWhile_digits whole.digits.each stops
  have fits := afterWhole_whole whole stops
  cases w with
  | nil => exact absurd rfl whole.digits.some
  | cons c w =>
    have digit := whole.digits.each c List.mem_cons_self
    rw [List.cons_append] at taken left fits ⊢
    rw [afterWhole_cons digit] at fits
    split at fits
    · cases fits
    · rename_i short
      rw [number, bind_ok get_ok]
      dsimp only
      rw [digit, if_neg (by decide), bind_ok (digits_ok _), if_neg short, taken, left]
      rfl

def numeric (j : Json) : Prop := (∃ n, j = .int n) ∨ floating j

theorem Left.numeric {said : Except Fault (Json × List Char)} {left : Option (List Char)}
    (run : Left floating said left) : Left numeric said left := by
  cases run with
  | read fit rest => exact .read (.inr fit) rest
  | malformed => exact .malformed _
  | unfinished => exact .unfinished

theorem numberTail_leaves (negative : Bool) (n left : Nat) :
    Leaves numeric (numberTail negative n left) fun s => (afterFraction s).bind afterExponent := by
  intro s
  obtain ⟨state, same, run⟩ := get_bind _ s
  rw [numberTail, run]
  split
  · exact (fractionPart_leaves _ _ _ _).numeric
  · exact (exponentPart_leaves _ _ _ _).numeric
  · exact (exponentPart_leaves _ _ _ _).numeric
  · rename_i point small great
    dsimp only
    rw [same, afterFraction_plain point, Option.bind_some, afterExponent_plain small great]
    split
    · exact (floatOf_leaves _ _ _ _).numeric
    split
    · exact .read (.inl ⟨_, rfl⟩) _
    split
    · exact .read (.inr ⟨_, rfl⟩) _
    split
    · exact .read (.inl ⟨_, rfl⟩) _
    · exact (floatOf_leaves _ _ _ _).numeric

theorem number_leaves (negative : Bool) : Leaves numeric (number negative) afterNumber := by
  intro s
  rw [afterNumber]
  cases fits : afterWhole s with
  | none =>
    obtain run | run := number_none negative fits
    · rw [run]
      exact .malformed _
    · rw [run]
      exact .unfinished
  | some rest =>
    obtain ⟨w, rfl, whole, stops⟩ := afterWhole_eq_some fits
    rw [number_whole negative whole stops]
    exact numberTail_leaves _ _ _ rest

theorem Leaves.ne_int {read : Reader Json} {left : List Char → Option (List Char)} (leaves : Leaves floating read left)
    {n : Int} : read s ≠ .ok (.int n, rest) := by
  intro said
  have run := leaves s
  rw [said] at run
  generalize left s = kept at run
  cases run with
  | read fit =>
    obtain ⟨x, float⟩ := fit
    cases float

theorem numberTail_eq_int {negative : Bool} {m left : Nat} {n : Int}
    (said : numberTail negative m left s = .ok (.int n, rest)) :
    s = rest ∧ left = 0 ∧ (negative = false ∧ n = m ∨ negative = true ∧ n < 0) := by
  rw [numberTail, get_bind_eq_ok] at said
  obtain ⟨state, same, said⟩ := said
  split at said
  · exact absurd said (fractionPart_leaves _ _ _).ne_int
  · exact absurd said (exponentPart_leaves _ _ _).ne_int
  · exact absurd said (exponentPart_leaves _ _ _).ne_int
  · split at said
    · exact absurd said (floatOf_leaves _ _ _).ne_int
    rename_i none
    have none : left = 0 := by simpa using none
    split at said
    · rename_i positive
      cases said
      exact ⟨same.symm, none, .inl ⟨by simpa using positive, rfl⟩⟩
    rename_i sign
    split at said
    · cases said
    rename_i some
    split at said
    · cases said
      exact ⟨same.symm, none, .inr ⟨by simpa using sign, by omega⟩⟩
    · exact absurd said (floatOf_leaves _ _ _).ne_int

-- What is skipped behind the digits and the fraction.
def skipExponent (s : List Char) : Reader Unit := do
  match s with
  | c :: rest =>
    if c = 'e' ∨ c = 'E' then
      let rest := match rest with
        | '+' :: more => more
        | '-' :: more => more
        | _ => rest
      if (rest.takeWhile Char.isDigit).isEmpty then throw .malformed
      set (rest.dropWhile Char.isDigit)
    else set s
  | [] => set s

def passed : Option (List Char) → Except Fault (Unit × List Char)
  | some rest => .ok ((), rest)
  | none => .error .malformed

theorem skipExponent_eq (s state : List Char) : skipExponent s state = passed (afterExponent s) := by
  cases s with
  | nil => rfl
  | cons c rest =>
    have signed : (match rest with | '+' :: more => more | '-' :: more => more | _ => rest) = afterSign rest := by
      unfold afterSign
      split <;> rfl
    unfold skipExponent
    rw [afterExponent, afterDigits]
    simp only [signed]
    split
    · split <;> rfl
    · rfl

theorem skipNumber_eq (s : List Char) : skipNumber s = passed (afterNumber s) := by
  rw [skipNumber, bind_ok (digits_ok s), afterNumber, afterWhole]
  dsimp only
  split
  · rfl
  · obtain ⟨state, -, run⟩ := get_bind _ (s.dropWhile Char.isDigit)
    rw [run, Option.bind_eq_bind, Option.bind_some]
    generalize s.dropWhile Char.isDigit = rest
    split
    · rename_i more
      rw [afterFraction, afterDigits]
      split
      · rfl
      · exact skipExponent_eq (more.dropWhile Char.isDigit) state
    · rename_i point
      rw [afterFraction_plain point]
      exact skipExponent_eq rest state

theorem skipNumber_eq_ok (said : skipNumber s = .ok ((), rest)) : ∃ t, s = t ++ rest ∧ Unsigned t := by
  rw [skipNumber_eq] at said
  cases left : afterNumber s with
  | none =>
    rw [left] at said
    cases said
  | some after =>
    rw [left] at said
    cases said
    exact afterNumber_eq_some left

theorem skipNumber_unsigned {t : List Char} (unsigned : Unsigned t) (apart : Apart rest) :
    skipNumber (t ++ rest) = .ok ((), rest) := by
  rw [skipNumber_eq, afterNumber_unsigned unsigned apart]
  rfl

theorem number_eq_ok {negative : Bool} {j : Json} (said : number negative s = .ok (j, rest)) :
    ∃ t, s = t ++ rest ∧ Unsigned t ∧ numeric j := by
  have run := number_leaves negative s
  rw [said] at run
  generalize left : afterNumber s = kept at run
  cases run with
  | read fit =>
    obtain ⟨t, front, unsigned⟩ := afterNumber_eq_some left
    exact ⟨t, front, unsigned, fit⟩

theorem number_unsigned (negative : Bool) {t : List Char} (unsigned : Unsigned t) (apart : Apart rest) :
    (∃ j, number negative (t ++ rest) = .ok (j, rest)) ∨ number negative (t ++ rest) = .error .malformed := by
  have run := number_leaves negative (t ++ rest)
  rw [afterNumber_unsigned unsigned apart] at run
  generalize number negative (t ++ rest) = said at run
  cases run with
  | @read j _ _ => exact .inl ⟨j, rfl⟩
  | malformed => exact .inr rfl

theorem number_eq_int {negative : Bool} {n : Int} (said : number negative s = .ok (.int n, rest)) :
    negative = false ∧ (∃ w, s = w ++ rest ∧ Whole w ∧ n = Nat.ofDigitChars 10 w 0) ∨ negative = true ∧ n < 0 := by
  cases fits : afterWhole s with
  | none =>
    obtain run | run := number_none negative fits
    · rw [run] at said
      cases said
    · rw [run] at said
      cases said
  | some after =>
    obtain ⟨w, rfl, whole, stops⟩ := afterWhole_eq_some fits
    rw [number_whole negative whole stops] at said
    obtain ⟨rfl, none, ⟨positive, rfl⟩ | below⟩ := numberTail_eq_int said
    · exact .inl ⟨positive, w, rfl, whole, congrArg _ (significant_zero none)⟩
    · exact .inr below

theorem number_natural {w : List Char} (whole : Whole w) (apart : Apart rest)
    (small : Nat.ofDigitChars 10 w 0 < UInt64.size) :
    number false (w ++ rest) = .ok (.int (Nat.ofDigitChars 10 w 0), rest) := by
  rw [number_whole false whole apart.noDigit, significant_small small, numberTail]
  obtain ⟨state, same, run⟩ := get_bind _ rest
  rw [run]
  split
  · cases apart _ rfl
  · cases apart _ rfl
  · cases apart _ rfl
  · rw [same]
    rfl

end Reader

theorem Unsigned.head {t : List Char} (unsigned : Unsigned t) : ∃ c u, t = c :: u ∧ c.isDigit = true := by
  cases unsigned with
  | @parts w f e whole _ _ =>
    cases w with
    | nil => exact absurd rfl whole.digits.some
    | cons c w => exact ⟨c, _, rfl, whole.digits.each c List.mem_cons_self⟩

theorem Numeral.head {t : List Char} (numeral : Numeral t) : ∃ c u, t = c :: u ∧ startsNumber c = true := by
  cases numeral with
  | positive unsigned =>
    obtain ⟨c, u, rfl, digit⟩ := unsigned.head
    exact ⟨c, u, rfl, by simp [startsNumber, digit]⟩
  | negative => exact ⟨_, _, rfl, rfl⟩

theorem Unsigned.unique {t t' r r' : List Char} (unsigned : Unsigned t) (unsigned' : Unsigned t') (apart : Apart r)
    (apart' : Apart r') (same : t ++ r = t' ++ r') : t = t' := by
  have left := afterNumber_unsigned unsigned apart
  rw [same, afterNumber_unsigned unsigned' apart', Option.some.injEq] at left
  rw [left] at same
  exact List.append_cancel_right same

theorem Numeral.unique {t t' r r' : List Char} (numeral : Numeral t) (numeral' : Numeral t') (apart : Apart r)
    (apart' : Apart r') (same : t ++ r = t' ++ r') : t = t' := by
  cases numeral with
  | positive unsigned =>
    cases numeral' with
    | positive unsigned' => exact unsigned.unique unsigned' apart apart' same
    | negative _ =>
      obtain ⟨c, u, rfl, digit⟩ := unsigned.head
      obtain ⟨rfl, -⟩ := List.cons.inj same
      cases digit
  | negative unsigned =>
    cases numeral' with
    | positive unsigned' =>
      obtain ⟨c, u, rfl, digit⟩ := unsigned'.head
      obtain ⟨rfl, -⟩ := List.cons.inj same
      cases digit
    | negative unsigned' => exact congrArg _ (unsigned.unique unsigned' apart apart' (List.cons.inj same).2)

end RouteQuote.Json
