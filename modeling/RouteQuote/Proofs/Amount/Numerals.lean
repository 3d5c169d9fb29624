import RouteQuote.Amount
import RouteQuote.Proofs.FirstFault
import RouteQuote.Proofs.Text.Bytes
import RouteQuote.Proofs.Text.Words

namespace RouteQuote

namespace Amount

theorem bounded_fits {n : Nat} (fits : n < size) : bounded n = .ok n := if_pos fits

theorem bounded_great {n : Nat} (great : size ≤ n) : bounded n = .error .tooLarge := if_neg (Nat.not_lt.mpr great)

theorem ok_bind (a : α) (next : α → Except ε β) : (Except.ok a >>= next) = next a := rfl

theorem error_bind (e : ε) (next : α → Except ε β) : (Except.error e >>= next) = .error e := rfl

-- The number whose digits are read on from another number, the most significant first.
def number (base start : Nat) (digits : List Nat) : Nat := digits.foldl (fun n d => base * n + d) start

section

variable {base start d : Nat} {digits : List Nat}

theorem number_nil : number base start [] = start := rfl

theorem number_cons : number base start (d :: digits) = number base (base * start + d) digits := rfl

theorem number_concat : number base start (digits ++ [d]) = base * number base start digits + d := by
  rw [number, List.foldl_append]
  rfl

theorem le_number (positive : 0 < base) : start ≤ number base start digits := by
  induction digits generalizing start with
  | nil => exact Nat.le_refl start
  | cons d digits ih =>
    have grown : start ≤ base * start := Nat.le_mul_of_pos_left start positive
    rw [number_cons]
    exact Nat.le_trans (Nat.le_trans grown (Nat.le_add_right _ d)) ih

end

-- A byte that a reader passes: one of its digits, or an underscore.
def Legal (base : Nat) (b : UInt8) : Prop := b = underscore ∨ ∃ d, digitBelow base b = .ok d

def digitsOf (base : Nat) (bytes : List UInt8) : List Nat := bytes.filterMap fun b => (digitBelow base b).toOption

section

variable {base d : Nat} {b : UInt8} {bytes : List UInt8}

theorem digitBelow_eq_ok : digitBelow base b = .ok d ↔ digitOfByte? b = some d ∧ d < base := by
  unfold digitBelow
  cases digitOfByte? b with
  | none => simp
  | some e =>
    by_cases below : e < base
    · simp only [if_pos below, Except.ok.injEq, Option.some.injEq]
      constructor
      · rintro rfl
        exact ⟨rfl, below⟩
      · exact And.left
    · simp only [if_neg below, Option.some.injEq]
      constructor
      · intro said
        cases said
      · rintro ⟨rfl, small⟩
        exact absurd small below

theorem digitBelow_underscore : digitBelow base underscore = .error (.invalidDigit underscore) := rfl

theorem digit_ne_underscore (digit : digitBelow base b = .ok d) : b ≠ underscore := by
  rintro rfl
  rw [digitBelow_underscore] at digit
  cases digit

theorem digitsOf_underscore : digitsOf base (underscore :: bytes) = digitsOf base bytes := rfl

theorem digitsOf_digit (digit : digitBelow base b = .ok d) : digitsOf base (b :: bytes) = d :: digitsOf base bytes := by
  simp [digitsOf, digit, Except.toOption]

theorem digitsOf_reverse : digitsOf base bytes.reverse = (digitsOf base bytes).reverse := List.filterMap_reverse

end

-- By induction on the bytes: the value of the complete groups, shifted by the open group, is the number so far.
theorem decimalFrom_legal {bytes : List UInt8} (legal : ∀ b ∈ bytes, Legal 10 b) {value group count : Nat}
    (fits : value < size) (short : count < groupSize) (within : group < Nat.pow 10 count) :
    decimalFrom value group count bytes = bounded (number 10 (value * Nat.pow 10 count + group) (digitsOf 10 bytes)) := by
  induction bytes generalizing value group count with
  | nil =>
    rw [decimalFrom, digitsOf, List.filterMap_nil, number_nil]
    split
    · rename_i complete
      subst complete
      have empty : group = 0 := Nat.lt_one_iff.mp within
      have whole : value * Nat.pow 10 0 = value := Nat.mul_one value
      rw [empty, whole, Nat.add_zero, bounded_fits fits]
    · rfl
  | cons b bytes ih =>
    obtain ⟨first, rest⟩ := List.forall_mem_cons.mp legal
    rcases first with rfl | ⟨d, digit⟩
    · rw [decimalFrom, if_pos rfl, digitsOf_underscore]
      exact ih rest fits short within
    · have small : d < 10 := (digitBelow_eq_ok.mp digit).2
      have shifted : 10 * (value * Nat.pow 10 count + group) + d = value * Nat.pow 10 (count + 1) + (10 * group + d) := by
        have power : value * Nat.pow 10 (count + 1) = 10 * (value * Nat.pow 10 count) := by
          rw [Nat.mul_left_comm]
          exact congrArg (value * ·) (Nat.mul_comm _ _)
        omega
      rw [decimalFrom, if_neg (digit_ne_underscore digit), digit, ok_bind, digitsOf_digit digit, number_cons, shifted]
      split
      · rename_i full
        rw [full]
        by_cases below : value * Nat.pow 10 groupSize + (10 * group + d) < size
        · have start : ∀ n, n * Nat.pow 10 0 + 0 = n := Nat.mul_one
          have closed := ih rest below (by decide : 0 < groupSize) (by decide : 0 < Nat.pow 10 0)
          rw [start] at closed
          rw [bounded_fits below, ok_bind]
          exact closed
        · have great := Nat.not_lt.mp below
          rw [bounded_great great, error_bind, bounded_great (Nat.le_trans great (le_number (by decide)))]
      · have more : 10 * group + d < Nat.pow 10 (count + 1) := by
          have power : Nat.pow 10 (count + 1) = Nat.pow 10 count * 10 := rfl
          omega
        exact ih rest fits (by omega) more

theorem legal_of_decimalFrom {bytes : List UInt8} {value group count n : Nat}
    (said : decimalFrom value group count bytes = .ok n) : ∀ b ∈ bytes, Legal 10 b := by
  induction bytes generalizing value group count with
  | nil => exact nofun
  | cons b bytes ih =>
    rw [decimalFrom] at said
    split at said
    · rename_i underscore
      exact List.forall_mem_cons.mpr ⟨.inl underscore, ih said⟩
    · obtain ⟨d, digit, said⟩ := Except.bind_eq_ok.mp said
      refine List.forall_mem_cons.mpr ⟨.inr ⟨d, digit⟩, ?_⟩
      split at said
      · obtain ⟨whole, _, said⟩ := Except.bind_eq_ok.mp said
        exact ih said
      · exact ih said

theorem binaryFrom_digit {digitBits value bits d : Nat} {b : UInt8} {bytes : List UInt8}
    (digit : digitBelow (Nat.pow 2 digitBits) b = .ok d) : binaryFrom digitBits value bits (b :: bytes) =
      (if d = 0 then .ok value else bounded (value + d * Nat.pow 2 bits)) >>= fun value =>
        binaryFrom digitBits value (bits + digitBits) bytes := by
  rw [binaryFrom, if_neg (digit_ne_underscore digit), digit, ok_bind]
  by_cases zero : d = 0
  · simp only [if_pos zero]
  · simp only [if_neg zero]

-- A digit zero is not added, which comes to the same.
theorem bounded_digit {value d weight : Nat} (fits : value < size) :
    (if d = 0 then .ok value else bounded (value + d * weight)) = bounded (value + d * weight) := by
  split
  · rename_i zero
    rw [zero, Nat.zero_mul, Nat.add_zero, bounded_fits fits]
  · rfl

-- By induction on the bytes from the right: their number is shifted by the bits that are filled.
theorem binaryFrom_legal {digitBits : Nat} {bytes : List UInt8} (legal : ∀ b ∈ bytes, Legal (Nat.pow 2 digitBits) b)
    {value bits : Nat} (fits : value < size) : binaryFrom digitBits value bits bytes =
      bounded (value + number (Nat.pow 2 digitBits) 0 (digitsOf (Nat.pow 2 digitBits) bytes).reverse * Nat.pow 2 bits) := by
  induction bytes generalizing value bits with
  | nil =>
    have nothing : number (Nat.pow 2 digitBits) 0 [] * Nat.pow 2 bits = 0 := Nat.zero_mul _
    rw [binaryFrom, digitsOf, List.filterMap_nil, List.reverse_nil, nothing, Nat.add_zero, bounded_fits fits]
  | cons b bytes ih =>
    obtain ⟨first, rest⟩ := List.forall_mem_cons.mp legal
    rcases first with rfl | ⟨d, digit⟩
    · rw [binaryFrom, if_pos rfl, digitsOf_underscore]
      exact ih rest fits
    · rw [binaryFrom_digit digit, bounded_digit fits, digitsOf_digit digit, List.reverse_cons, number_concat]
      generalize number (Nat.pow 2 digitBits) 0 (digitsOf (Nat.pow 2 digitBits) bytes).reverse = upper at ih ⊢
      have shifted : value + (Nat.pow 2 digitBits * upper + d) * Nat.pow 2 bits =
          (value + d * Nat.pow 2 bits) + upper * Nat.pow 2 (bits + digitBits) := by
        have power : Nat.pow 2 (bits + digitBits) = Nat.pow 2 digitBits * Nat.pow 2 bits := by
          rw [Nat.mul_comm]
          exact Nat.pow_add 2 bits digitBits
        rw [power, Nat.add_mul, Nat.add_assoc, Nat.add_comm (d * Nat.pow 2 bits), Nat.mul_comm (Nat.pow 2 digitBits) upper,
          Nat.mul_assoc]
      rw [shifted]
      by_cases below : value + d * Nat.pow 2 bits < size
      · rw [bounded_fits below, ok_bind]
        exact ih rest below
      · have great := Nat.not_lt.mp below
        rw [bounded_great great, error_bind, bounded_great (Nat.le_trans great (Nat.le_add_right _ _))]

theorem legal_of_binaryFrom {digitBits : Nat} {bytes : List UInt8} {value bits n : Nat}
    (said : binaryFrom digitBits value bits bytes = .ok n) : ∀ b ∈ bytes, Legal (Nat.pow 2 digitBits) b := by
  induction bytes generalizing value bits with
  | nil => exact nofun
  | cons b bytes ih =>
    rw [binaryFrom] at said
    split at said
    · rename_i underscore
      exact List.forall_mem_cons.mpr ⟨.inl underscore, ih said⟩
    · obtain ⟨d, digit, said⟩ := Except.bind_eq_ok.mp said
      refine List.forall_mem_cons.mpr ⟨.inr ⟨d, digit⟩, ?_⟩
      split at said
      · exact ih said
      · obtain ⟨next, _, said⟩ := Except.bind_eq_ok.mp said
        exact ih said

def Radix.base : Radix → Nat
  | .binary => 2
  | .octal => 8
  | .decimal => 10
  | .hexadecimal => 16

theorem Radix.base_le (radix : Radix) : radix.base ≤ 16 := by cases radix <;> decide

theorem binaryFrom_reverse {digitBits : Nat} {bytes : List UInt8} (legal : ∀ b ∈ bytes, Legal (Nat.pow 2 digitBits) b) :
    binaryFrom digitBits 0 0 bytes.reverse =
      bounded (number (Nat.pow 2 digitBits) 0 (digitsOf (Nat.pow 2 digitBits) bytes)) := by
  have whole : ∀ n, 0 + n * Nat.pow 2 0 = n := fun n => (Nat.zero_add _).trans (Nat.mul_one n)
  rw [binaryFrom_legal (by simpa using legal) (by decide), digitsOf_reverse, List.reverse_reverse, whole]

theorem readNat_legal {radix : Radix} {bytes : List UInt8} (legal : ∀ b ∈ bytes, Legal radix.base b) :
    readNat radix bytes = bounded (number radix.base 0 (digitsOf radix.base bytes)) := by
  cases radix with
  | binary => exact binaryFrom_reverse legal
  | octal => exact binaryFrom_reverse legal
  | decimal => exact decimalFrom_legal legal (by decide) (by decide) (by decide)
  | hexadecimal => exact binaryFrom_reverse legal

theorem legal_of_readNat {radix : Radix} {bytes : List UInt8} {n : Nat} (said : readNat radix bytes = .ok n) :
    ∀ b ∈ bytes, Legal radix.base b := by
  cases radix with
  | binary => exact fun b member => legal_of_binaryFrom said b (List.mem_reverse.mpr member)
  | octal => exact fun b member => legal_of_binaryFrom said b (List.mem_reverse.mpr member)
  | decimal => exact legal_of_decimalFrom said
  | hexadecimal => exact fun b member => legal_of_binaryFrom said b (List.mem_reverse.mpr member)

theorem read_legal {radix : Radix} {bytes : List UInt8} (legal : ∀ b ∈ bytes, Legal radix.base b) :
    read radix bytes = if fits : number radix.base 0 (digitsOf radix.base bytes) < size then .ok ⟨_, fits⟩
      else .error .tooLarge := by
  unfold read
  rw [readNat_legal legal]
  split
  · rename_i fits
    rw [bounded_fits fits, ok_bind, dif_pos fits]
  · rename_i great
    rw [bounded_great (Nat.not_lt.mp great), error_bind]

theorem legal_of_read {radix : Radix} {bytes : List UInt8} {a : Amount} (said : read radix bytes = .ok a) :
    ∀ b ∈ bytes, Legal radix.base b := by
  unfold read at said
  obtain ⟨n, found, _⟩ := Except.bind_eq_ok.mp said
  exact legal_of_readNat found

-- A digit of a radix, letters in either case.
def digit? (base : Nat) (c : Char) : Option Nat := (Text.hexValue? c).filter (· < base)

-- Nothing but digits, and underscores wherever they stand.
def Digits (base : Nat) (s : List Char) : Prop := ∀ c ∈ s, c = '_' ∨ (digit? base c).isSome

instance : Decidable (Digits base s) :=
  decidable_of_iff (s.all fun c => c == '_' || (digit? base c).isSome) (by simp [Digits])

-- The number that a text of digits stands for.
def value (base : Nat) (s : List Char) : Nat := number base 0 (s.filterMap (digit? base))

section

variable {base : Nat} {c : Char} {s : List Char}

theorem digitBelow_ascii (small : base ≤ 16) (ascii : c.toNat < 0x80) :
    (digitBelow base (UInt8.ofNat c.toNat)).toOption = digit? base c := by
  have table : ∀ n : Fin 128, (digitOfByte? (UInt8.ofNat n)).filter (· < 16) = Text.hexValue? (Char.ofNat n) := by decide
  have known := table ⟨c.toNat, ascii⟩
  rw [Char.ofNat_toNat] at known
  unfold digit? digitBelow
  rw [← known]
  cases digitOfByte? (UInt8.ofNat c.toNat) with
  | none => rfl
  | some d =>
    by_cases below : d < base
    · have wide : d < 16 := Nat.lt_of_lt_of_le below small
      simp [below, wide, Option.filter_some, Except.toOption]
    · by_cases wide : d < 16 <;> simp [below, wide, Option.filter_some, Except.toOption]

theorem ascii_of_legal {b : UInt8} (legal : Legal base b) : b.toNat < 0x80 := by
  rcases legal with rfl | ⟨d, digit⟩
  · decide
  · obtain ⟨known, below⟩ := digitBelow_eq_ok.mp digit
    unfold digitOfByte? at known
    simp only at known
    split at known
    · omega
    split at known
    · omega
    split at known
    · omega
    · cases known

theorem ascii_of_digits (digits : Digits base s) : ∀ c ∈ s, c.toNat < 0x80 := by
  intro c member
  rcases digits c member with rfl | digit
  · decide
  · obtain ⟨d, known⟩ := Option.isSome_iff_exists.mp digit
    exact Text.hexValue?_ascii (Option.filter_eq_some_iff.mp known).1

theorem legal_ascii (small : base ≤ 16) (ascii : c.toNat < 0x80) :
    Legal base (UInt8.ofNat c.toNat) ↔ c = '_' ∨ (digit? base c).isSome := by
  have mark : UInt8.ofNat c.toNat = underscore ↔ c = '_' := by
    have table : ∀ n : Fin 128, UInt8.ofNat n = underscore ↔ Char.ofNat n = '_' := by decide
    have known := table ⟨c.toNat, ascii⟩
    rwa [Char.ofNat_toNat] at known
  unfold Legal
  rw [mark, ← digitBelow_ascii small ascii]
  cases digitBelow base (UInt8.ofNat c.toNat) <;> simp [Except.toOption]

-- Every byte of a character outside ASCII is refused, so that its bytes are never taken for digits of their own.
theorem legal_bytesOf (small : base ≤ 16) : (∀ b ∈ bytesOf s, Legal base b) ↔ Digits base s := by
  have bytes : bytesOf s = s.flatMap String.utf8EncodeChar := by
    rw [bytesOf, Text.utf8Bytes_eq, String.toList_ofList]
  rw [bytes]
  constructor
  · intro legal c member
    have each : ∀ b ∈ String.utf8EncodeChar c, Legal base b :=
      fun b inside => legal b (List.mem_flatMap.mpr ⟨c, member, inside⟩)
    by_cases ascii : c.toNat < 0x80
    · rw [← legal_ascii small ascii]
      exact each _ (by simp [Text.utf8EncodeChar_ascii ascii])
    · obtain ⟨b, bs, shape⟩ := List.exists_cons_of_ne_nil (String.utf8EncodeChar_ne_nil (c := c))
      have inside : b ∈ String.utf8EncodeChar c := shape ▸ List.mem_cons_self
      have wide := Text.utf8EncodeChar_wide (Nat.not_lt.mp ascii) b inside
      exact absurd (ascii_of_legal (each b inside)) (Nat.not_lt.mpr wide)
  · intro digits b member
    obtain ⟨c, there, inside⟩ := List.mem_flatMap.mp member
    have ascii := ascii_of_digits digits c there
    rw [Text.utf8EncodeChar_ascii ascii, List.mem_singleton] at inside
    exact inside ▸ (legal_ascii small ascii).mpr (digits c there)

theorem digitsOf_bytesOf (small : base ≤ 16) (digits : Digits base s) :
    digitsOf base (bytesOf s) = s.filterMap (digit? base) := by
  have ascii := ascii_of_digits digits
  rw [bytesOf, Text.utf8Bytes_ascii ascii, digitsOf]
  induction s with
  | nil => rfl
  | cons c s ih =>
    obtain ⟨first, rest⟩ := List.forall_mem_cons.mp ascii
    have here := digitBelow_ascii small first
    have later := ih (fun c member => digits c (List.mem_cons_of_mem _ member)) rest
    rw [List.map_cons, List.filterMap_cons, List.filterMap_cons, here, later]

end

theorem read_digits {radix : Radix} {s : List Char} (digits : Digits radix.base s) : read radix (bytesOf s) =
    if fits : value radix.base s < size then .ok ⟨_, fits⟩ else .error .tooLarge := by
  have legal := (legal_bytesOf radix.base_le).mpr digits
  rw [read_legal legal]
  simp only [digitsOf_bytesOf radix.base_le digits]
  rfl

theorem read_eq_ok {radix : Radix} {s : List Char} {a : Amount} :
    read radix (bytesOf s) = .ok a ↔ Digits radix.base s ∧ value radix.base s = a.val := by
  constructor
  · intro said
    have digits := (legal_bytesOf radix.base_le).mp (legal_of_read said)
    rw [read_digits digits] at said
    split at said
    · cases said
      exact ⟨digits, rfl⟩
    · cases said
  · rintro ⟨digits, written⟩
    have fits : value radix.base s < size := written ▸ a.isLt
    rw [read_digits digits, dif_pos fits]
    exact congrArg Except.ok (Fin.ext written)

end Amount

end RouteQuote

namespace RouteQuote

namespace Text

theorem digit_range {c : Char} (digit : c.isDigit = true) : 48 ≤ c.toNat ∧ c.toNat ≤ 57 := by
  simp only [Char.isDigit, ge_iff_le, Bool.and_eq_true, decide_eq_true_eq] at digit
  exact digit

theorem isBlank_digit {c : Char} (digit : c.isDigit = true) : isBlank c = false := by
  have range := digit_range digit
  simp [isBlank]
  omega

end Text

namespace Amount

theorem le_ofDigitChars (cs : List Char) (n : Nat) : n ≤ Nat.ofDigitChars 10 cs n := by
  induction cs generalizing n with
  | nil => exact Nat.le_refl n
  | cons c cs ih =>
    rw [Nat.ofDigitChars_cons]
    have := ih (10 * n + (c.toNat - '0'.toNat))
    omega

theorem digit?_digit {c : Char} (digit : c.isDigit = true) : digit? 10 c = some (c.toNat - 48) := by
  have range := Text.digit_range digit
  have figure : '0' ≤ c ∧ c ≤ '9' := range
  have small : c.toNat - 48 < 10 := by omega
  simp [digit?, Text.hexValue?, figure, Option.filter_some, small]

theorem digits_of_decimal {cs : List Char} (digits : ∀ c ∈ cs, c.isDigit = true) : Digits 10 cs := by
  intro c member
  rw [digit?_digit (digits c member)]
  exact .inr rfl

theorem number_decimal {cs : List Char} (digits : ∀ c ∈ cs, c.isDigit = true) (n : Nat) :
    number 10 n (cs.filterMap (digit? 10)) = Nat.ofDigitChars 10 cs n := by
  induction cs generalizing n with
  | nil => rfl
  | cons c cs ih =>
    obtain ⟨digit, rest⟩ := List.forall_mem_cons.mp digits
    rw [List.filterMap_cons_some (digit?_digit digit), number_cons, ih rest, Nat.ofDigitChars_cons]
    rfl

theorem toList_text (a : Amount) : a.text.toList = Nat.toDigits 10 a.val := by
  rw [text, Nat.toString_eq_ofList_toDigits, String.toList_ofList]

theorem isDigit_text (a : Amount) : ∀ c ∈ a.text.toList, c.isDigit = true := by
  rw [toList_text]
  exact fun c member => Nat.isDigit_of_mem_toDigits (by decide) (by decide) member

theorem value_text (a : Amount) : value 10 a.text.toList = a.val := by
  rw [value, number_decimal a.isDigit_text, toList_text]
  exact Nat.ofDigitChars_ten_toDigits

theorem trim_text (a : Amount) : Text.trim a.text.toList = a.text.toList :=
  Text.trim_visible fun c member => Text.isBlank_digit (a.isDigit_text c member)

theorem read_text (a : Amount) : read .decimal (bytesOf a.text.toList) = .ok a :=
  read_eq_ok.mpr ⟨digits_of_decimal a.isDigit_text, a.value_text⟩

theorem readAnyRadix_digits {cs : List Char} (digits : ∀ c ∈ cs, c.isDigit = true) :
    readAnyRadix cs = read .decimal (bytesOf cs) := by
  unfold readAnyRadix
  split
  · rename_i mark rest
    have range := Text.digit_range (digits mark (by simp))
    have letter : ∀ d : Char, 57 < d.toNat → mark ≠ d := by
      rintro d high rfl
      omega
    rw [if_neg, if_neg, if_neg]
    all_goals simp [letter]
  · rfl

theorem readAnyRadix_text (a : Amount) : readAnyRadix (Text.trim a.text.toList) = .ok a := by
  rw [a.trim_text, readAnyRadix_digits a.isDigit_text, a.read_text]

end Amount

end RouteQuote
