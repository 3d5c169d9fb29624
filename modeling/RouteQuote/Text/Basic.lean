namespace RouteQuote.Text

-- The property White_Space.
def isBlank (c : Char) : Bool :=
  let n := c.toNat
  (9 ≤ n && n ≤ 13) || n == 0x20 || n == 0x85 || n == 0xA0 || n == 0x1680 || (0x2000 ≤ n && n ≤ 0x200A) ||
    n == 0x2028 || n == 0x2029 || n == 0x202F || n == 0x205F || n == 0x3000

def trim (s : List Char) : List Char := ((s.dropWhile isBlank).reverse.dropWhile isBlank).reverse

def trimmed (s : String) : String := String.ofList (trim s.toList)

-- The maximal runs of characters that do not separate, in order.
def wordsBy (separates : Char → Bool) : List Char → List (List Char)
  | [] => []
  | c :: rest =>
    if separates c then wordsBy separates rest
    else match rest, wordsBy separates rest with
      | d :: _, word :: words => if separates d then [c] :: word :: words else (c :: word) :: words
      | _, words => [c] :: words

-- ASCII letters become lower case, all else stays.
def asciiLower (s : List Char) : List Char := s.map Char.toLower

def split (separator : Char) : List Char → List (List Char)
  | [] => [[]]
  | c :: rest =>
    if c = separator then [] :: split separator rest
    else match split separator rest with
      | part :: parts => (c :: part) :: parts
      | [] => [[c]]

-- What lies before the first separator, and what lies after it; none without a separator.
def splitOnce (separator : Char) : List Char → Option (List Char × List Char)
  | [] => none
  | c :: rest =>
    if c = separator then some ([], rest)
    else (splitOnce separator rest).map fun (before, after) => (c :: before, after)

theorem split_part {separator : Char} {part : List Char} (whole : separator ∉ part) : split separator part = [part] := by
  induction part with
  | nil => rfl
  | cons c rest ih =>
    have here : c ≠ separator := Ne.symm (List.ne_of_not_mem_cons whole)
    rw [split, if_neg here, ih (List.not_mem_of_not_mem_cons whole)]

theorem split_append {separator : Char} {part : List Char} (whole : separator ∉ part) (rest : List Char) :
    split separator (part ++ separator :: rest) = part :: split separator rest := by
  induction part with
  | nil => rw [List.nil_append, split, if_pos rfl]
  | cons c part ih =>
    have here : c ≠ separator := Ne.symm (List.ne_of_not_mem_cons whole)
    rw [List.cons_append, split, if_neg here, ih (List.not_mem_of_not_mem_cons whole)]

-- Parts that were joined are found again when none of them holds the separator.
theorem split_intercalate {separator : Char} {parts : List (List Char)} (some : parts ≠ [])
    (whole : ∀ part ∈ parts, separator ∉ part) : split separator ([separator].intercalate parts) = parts := by
  induction parts with
  | nil => exact absurd rfl some
  | cons part parts ih =>
    obtain ⟨first, others⟩ := List.forall_mem_cons.mp whole
    cases parts with
    | nil => simpa [List.intercalate] using split_part first
    | cons next parts =>
      have joined : [separator].intercalate (part :: next :: parts) =
          part ++ separator :: [separator].intercalate (next :: parts) := by
        simp [List.intercalate, List.intersperse]
      rw [joined, split_append first, ih (List.cons_ne_nil _ _) others]

-- The part behind the last separator is the last one.
theorem split_behind {separator : Char} {part : List Char} (whole : separator ∉ part) (front : List Char) :
    ∃ first others, split separator (front ++ separator :: part) = (first :: others) ++ [part] := by
  induction front with
  | nil => exact ⟨[], [], by rw [List.nil_append, split, if_pos rfl, split_part whole, List.singleton_append]⟩
  | cons c front ih =>
    obtain ⟨first, others, cut⟩ := ih
    rw [List.cons_append, split, cut]
    by_cases here : c = separator
    · exact ⟨[], first :: others, by rw [if_pos here]; rfl⟩
    · exact ⟨c :: first, others, by rw [if_neg here]; rfl⟩

theorem splitOnce_eq_some {separator : Char} {s before after : List Char} :
    splitOnce separator s = some (before, after) ↔ s = before ++ separator :: after ∧ separator ∉ before := by
  induction s generalizing before with
  | nil => simp [splitOnce]
  | cons c rest ih =>
    rw [splitOnce]
    by_cases here : c = separator
    · rw [if_pos here]
      constructor
      · intro same
        cases same
        exact ⟨here ▸ rfl, List.not_mem_nil⟩
      · rintro ⟨same, whole⟩
        cases before with
        | nil =>
          cases same
          rfl
        | cons d before =>
          cases same
          exact absurd (here ▸ List.mem_cons_self) whole
    · rw [if_neg here, Option.map_eq_some_iff]
      constructor
      · rintro ⟨⟨front, behind⟩, found, same⟩
        cases same
        obtain ⟨rfl, whole⟩ := ih.mp found
        exact ⟨rfl, List.not_mem_cons_of_ne_of_not_mem (Ne.symm here) whole⟩
      · rintro ⟨same, whole⟩
        cases before with
        | nil =>
          cases same
          exact absurd rfl here
        | cons d before =>
          cases same
          exact ⟨(before, after), ih.mpr ⟨rfl, List.not_mem_of_not_mem_cons whole⟩, rfl⟩

def digitValue (c : Char) : Nat := c.toNat - 48

def decimalValue (digits : List Char) : Nat := digits.foldl (fun n c => 10 * n + digitValue c) 0

def unsigned? (bound : Nat) (s : List Char) : Option Nat :=
  let digits := match s with
    | '+' :: rest => rest
    | _ => s
  if digits ≠ [] ∧ digits.all Char.isDigit then
    let n := decimalValue digits
    if n < bound then some n else none
  else none

end RouteQuote.Text
