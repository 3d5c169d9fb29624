import RouteQuote.Proofs.Json.Layout

namespace RouteQuote.Json

inductive HexUnit : List Char → Nat → Prop where
  | digits {a b c d : Char} {h i j k : Nat} (first : Text.hexValue? a = some h) (second : Text.hexValue? b = some i)
      (third : Text.hexValue? c = some j) (fourth : Text.hexValue? d = some k) :
      HexUnit [a, b, c, d] (((h * 16 + i) * 16 + j) * 16 + k)

-- A numeric escape behind its letter: one unit, or a leading and a trailing one for a character beyond 16 bits.
inductive Numbered : List Char → Char → Prop where
  | single {t : List Char} {n : Nat} (unit : HexUnit t n) (plane : n < 0xD800 ∨ 0xDFFF < n) : Numbered t (Char.ofNat n)
  | pair {t u : List Char} {high low : Nat} (leading : HexUnit t high) (trailing : HexUnit u low)
      (highRange : 0xD800 ≤ high ∧ high ≤ 0xDBFF) (lowRange : 0xDC00 ≤ low ∧ low ≤ 0xDFFF) :
      Numbered (t ++ '\\' :: 'u' :: u) (Char.ofNat ((high - 0xD800) * 0x400 + (low - 0xDC00) + 0x10000))

-- Where nobody looks at a string, a numeric escape need not be a character; a blank stands for it.
def AnyUnit (t : List Char) (c : Char) : Prop := c = ' ' ∧ ∃ n, HexUnit t n

def shortEscapes : List (Char × Char) :=
  [('"', '"'), ('\\', '\\'), ('/', '/'), ('b', '\x08'), ('f', '\x0c'), ('n', '\n'), ('r', '\r'), ('t', '\t')]

-- The text of one character of a string.
inductive Letter (numeric : List Char → Char → Prop) : List Char → Char → Prop where
  | plain {c : Char} (noQuote : c ≠ '"') (noEscape : c ≠ '\\') (noControl : 0x20 ≤ c.toNat) : Letter numeric [c] c
  | short {e c : Char} (known : (e, c) ∈ shortEscapes) : Letter numeric ['\\', e] c
  | numbered {t : List Char} {c : Char} (number : numeric t c) : Letter numeric ('\\' :: 'u' :: t) c

inductive Letters (numeric : List Char → Char → Prop) : List Char → List Char → Prop where
  | done : Letters numeric [] []
  | next {t s : List Char} {c : Char} {cs : List Char} (letter : Letter numeric t c) (others : Letters numeric s cs) :
      Letters numeric (t ++ s) (c :: cs)

-- The text after an opening quote.
def Closed (numeric : List Char → Char → Prop) (t cs : List Char) : Prop :=
    ∃ body, t = body ++ ['"'] ∧ Letters numeric body cs

def Quoted (t : List Char) (s : String) : Prop := ∃ u, t = '"' :: u ∧ Closed Numbered u s.toList

def LooselyQuoted (t : List Char) : Prop := ∃ u cs, t = '"' :: u ∧ Closed AnyUnit u cs

structure Digits (t : List Char) : Prop where
  some : t ≠ []
  each : ∀ c ∈ t, c.isDigit = true

-- No zero stands in front of other digits.
structure Whole (t : List Char) : Prop where
  digits : Digits t
  leading : t.head? = some '0' → t = ['0']

inductive Fraction : List Char → Prop where
  | none : Fraction []
  | some {ds : List Char} (digits : Digits ds) : Fraction ('.' :: ds)

inductive Exponent : List Char → Prop where
  | none : Exponent []
  | some {mark : Char} {sign ds : List Char} (marked : mark = 'e' ∨ mark = 'E')
      (signed : sign = [] ∨ sign = ['+'] ∨ sign = ['-']) (digits : Digits ds) : Exponent (mark :: (sign ++ ds))

inductive Unsigned : List Char → Prop where
  | parts {w f e : List Char} (whole : Whole w) (fraction : Fraction f) (exponent : Exponent e) :
      Unsigned (w ++ (f ++ e))

inductive Numeral : List Char → Prop where
  | positive {t : List Char} (unsigned : Unsigned t) : Numeral t
  | negative {t : List Char} (unsigned : Unsigned t) : Numeral ('-' :: t)

def startsNumber (c : Char) : Bool := c == '-' || c.isDigit

def goesOn (c : Char) : Bool := c.isDigit || c == '.' || c == 'e' || c == 'E'

def Apart (rest : List Char) : Prop := ∀ c ∈ rest.head?, goesOn c = false

-- A number ends where the text does not go on with more of it; all other values show their end themselves.
def Ended (t rest : List Char) : Prop := (∃ c ∈ t.head?, startsNumber c = true) → Apart rest

-- What stands before an item: blanks, and a comma unless it is the first.
inductive Between : Bool → List Char → Prop where
  | start {lead : List Char} (blank : Blank lead) : Between true lead
  | comma {gap lead : List Char} (before : Blank gap) (after : Blank lead) : Between false (gap ++ ',' :: lead)

-- The text after an opening bracket, or after an item, and the texts of the items in it. A spare comma before the
-- closing bracket is no JSON.
inductive Elements (spare : Bool) : Bool → List Char → List (List Char) → Prop where
  | close {first : Bool} {tail : List Char} (blank : Blank tail) : Elements spare first (tail ++ [']']) []
  | spare {gap tail : List Char} (allowed : spare = true) (before : Blank gap) (after : Blank tail) :
      Elements spare false (gap ++ ',' :: (tail ++ [']'])) []
  | next {first : Bool} {lead t s : List Char} {ts : List (List Char)} (between : Between first lead)
      (others : Elements spare false s ts) : Elements spare first (lead ++ (t ++ s)) (t :: ts)

-- The text after an opening brace, or after a member, and the names with the texts of their values.
inductive Members (named : List Char → κ → Prop) : Bool → List Char → List (κ × List Char) → Prop where
  | close {first : Bool} {tail : List Char} (blank : Blank tail) : Members named first (tail ++ ['\x7d']) []
  | next {first : Bool} {lead name gap inner t s : List Char} {key : κ} {ms : List (κ × List Char)}
      (between : Between first lead) (spelled : named name key) (before : Blank gap) (after : Blank inner)
      (others : Members named false s ms) :
      Members named first (lead ++ (name ++ (gap ++ ':' :: (inner ++ (t ++ s))))) ((key, t) :: ms)

def Unread (t : List Char) (_ : Unit) : Prop := LooselyQuoted t

inductive Formed (spare : Bool) : List Char → Prop where
  | nullText : Formed spare ['n', 'u', 'l', 'l']
  | trueText : Formed spare ['t', 'r', 'u', 'e']
  | falseText : Formed spare ['f', 'a', 'l', 's', 'e']
  | string {t : List Char} (quoted : LooselyQuoted t) : Formed spare t
  | number {t : List Char} (numeral : Numeral t) : Formed spare t
  | array {s : List Char} {ts : List (List Char)} (listed : Elements spare true s ts)
      (each : ∀ t ∈ ts, Formed spare t) : Formed spare ('[' :: s)
  | object {s : List Char} {ms : List (Unit × List Char)} (listed : Members Unread true s ms)
      (each : ∀ m ∈ ms, Formed spare m.2) : Formed spare ('\x7b' :: s)

-- The texts of JSON values.
def Valid (t : List Char) : Prop := Formed false t

theorem Apart.ended {t rest : List Char} (apart : Apart rest) : Ended t rest := fun _ => apart

theorem ended_of_head {c : Char} (other : startsNumber c = false) (t rest : List Char) : Ended (c :: t) rest := by
  rintro ⟨d, head, starts⟩
  cases head
  rw [other] at starts
  cases starts

theorem apart_cons {c : Char} (other : goesOn c = false) (rest : List Char) : Apart (c :: rest) := by
  intro d head
  cases head
  exact other

theorem goesOn_space {c : Char} (space : Reader.isSpace c = true) : goesOn c = false := by
  simp only [Reader.isSpace, Bool.or_eq_true, beq_iff_eq] at space
  obtain ((rfl | rfl) | rfl) | rfl := space <;> rfl

theorem apart_blank {gap : List Char} (blank : Blank gap) {c : Char} (other : goesOn c = false) (rest : List Char) :
    Apart (gap ++ c :: rest) := by
  cases gap with
  | nil => exact apart_cons other rest
  | cons d gap =>
    obtain ⟨space, -⟩ : Reader.isSpace d = true ∧ Blank gap := by simpa [Blank] using blank
    exact apart_cons (goesOn_space space) _

theorem Between.apart {lead : List Char} (between : Between false lead) (rest : List Char) : Apart (lead ++ rest) := by
  cases between with
  | @comma gap lead before _ =>
    rw [List.append_assoc]
    exact apart_blank before rfl _

theorem Elements.apart {spare : Bool} {s : List Char} {ts : List (List Char)} (listed : Elements spare false s ts)
    (rest : List Char) : Apart (s ++ rest) := by
  cases listed with
  | close blank =>
    rw [List.append_assoc]
    exact apart_blank blank rfl _
  | spare _ before _ =>
    rw [List.append_assoc]
    exact apart_blank before rfl _
  | next between _ =>
    rw [List.append_assoc]
    exact between.apart _

theorem Members.apart {named : List Char → κ → Prop} {s : List Char} {ms : List (κ × List Char)}
    (listed : Members named false s ms) (rest : List Char) : Apart (s ++ rest) := by
  cases listed with
  | close blank =>
    rw [List.append_assoc]
    exact apart_blank blank rfl _
  | next between _ _ _ _ =>
    rw [List.append_assoc]
    exact between.apart _

theorem Between.length {lead : List Char} (between : Between false lead) : 0 < lead.length := by
  cases between
  simp only [List.length_append, List.length_cons]
  omega

theorem Elements.length {spare first : Bool} {s : List Char} {ts : List (List Char)}
    (listed : Elements spare first s ts) : ts.length + (separator first).length ≤ s.length := by
  induction listed with
  | @close first => cases first <;> simp [separator]
  | spare =>
    simp only [List.length_append, List.length_cons, separator_later, List.length_nil]
    omega
  | @next first lead t s ts between others ih =>
    have later : (separator first).length ≤ lead.length := by
      cases first with
      | true => exact Nat.zero_le _
      | false => exact between.length
    simp only [List.length_append, List.length_cons, separator_later, List.length_nil] at ih ⊢
    omega

theorem Members.length {named : List Char → κ → Prop} {first : Bool} {s : List Char} {ms : List (κ × List Char)}
    (listed : Members named first s ms) : ms.length ≤ s.length := by
  induction listed with
  | close => exact Nat.zero_le _
  | next _ _ _ _ _ ih =>
    simp only [List.length_append, List.length_cons]
    omega

theorem Members.map {named : List Char → κ → Prop} {other : List Char → σ → Prop} (as : κ → σ)
    (spelled : ∀ t key, named t key → other t (as key)) {first : Bool} {s : List Char} {ms : List (κ × List Char)}
    (listed : Members named first s ms) : Members other first s (ms.map fun m => (as m.1, m.2)) := by
  induction listed with
  | close blank => exact .close blank
  | next between name before after _ ih => exact .next between (spelled _ _ name) before after ih

theorem Elements.loosen {spare first : Bool} {s : List Char} {ts : List (List Char)}
    (listed : Elements false first s ts) : Elements spare first s ts := by
  induction listed with
  | close blank => exact .close blank
  | spare allowed => cases allowed
  | next between _ ih => exact .next between ih

theorem Valid.loosen {spare : Bool} {t : List Char} (valid : Valid t) : Formed spare t := by
  induction valid with
  | nullText => exact .nullText
  | trueText => exact .trueText
  | falseText => exact .falseText
  | string quoted => exact .string quoted
  | number numeral => exact .number numeral
  | array listed _ ih => exact .array listed.loosen ih
  | object listed _ ih => exact .object listed ih

end RouteQuote.Json
