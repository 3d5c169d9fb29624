import RouteQuote.Json.Reader
import RouteQuote.Json.Value

namespace RouteQuote.Json

def Blank (s : List Char) : Prop := s.all Reader.isSpace = true

def isScalar : Json → Bool
  | .array _ | .object _ => false
  | _ => true

def separator (first : Bool) : List Char := if first then [] else [',']

theorem separator_first : separator true = [] := rfl

theorem separator_later : separator false = [','] := rfl

mutual

inductive Laid : Json → List Char → Prop
  | scalar {j : Json} (plain : j.isScalar = true) : Laid j j.text
  | array {js : List Json} {s : List Char} (items : LaidItems true js s) : Laid (.array js) ('[' :: s)
  | object {ms : List (String × Json)} {s : List Char} (members : LaidMembers true ms s) : Laid (.object ms) ('\x7b' :: s)

-- The text after an opening bracket, or after an item.
inductive LaidItems : Bool → List Json → List Char → Prop
  | close {first : Bool} {tail : List Char} (blank : Blank tail) : LaidItems first [] (tail ++ [']'])
  | next {first : Bool} {lead t s : List Char} {j : Json} {js : List Json} (blank : Blank lead) (item : Laid j t)
    (others : LaidItems false js s) : LaidItems first (j :: js) (separator first ++ (lead ++ (t ++ s)))

-- The text after an opening brace, or after a member.
inductive LaidMembers : Bool → List (String × Json) → List Char → Prop
  | close {first : Bool} {tail : List Char} (blank : Blank tail) : LaidMembers first [] (tail ++ ['\x7d'])
  | next {first : Bool} {lead gap t s : List Char} {key : String} {j : Json} {ms : List (String × Json)}
    (blank : Blank lead) (apart : Blank gap) (member : Laid j t) (others : LaidMembers false ms s) :
    LaidMembers first ((key, j) :: ms) (separator first ++ (lead ++ (stringText key ++ ':' :: (gap ++ (t ++ s)))))

end

theorem Laid.string {s : String} {t : List Char} (laid : Laid (.string s) t) : t = stringText s := by
  cases laid with
  | scalar => rw [text]

theorem Laid.bool {b : Bool} {t : List Char} (laid : Laid (.bool b) t) : t = text (.bool b) := by
  cases laid with
  | scalar => rfl

theorem LaidItems.length {first : Bool} {js : List Json} {s : List Char} (laid : LaidItems first js s) :
    js.length + (separator first).length ≤ s.length := by
  induction js generalizing first s with
  | nil =>
    cases laid
    cases first <;> simp [separator]
  | cons j js ih =>
    cases laid with
    | next _ _ others =>
      have := ih others
      simp only [separator, List.length_append, List.length_cons] at this ⊢
      simp at this
      omega

theorem LaidMembers.length {first : Bool} {ms : List (String × Json)} {s : List Char} (laid : LaidMembers first ms s) :
    ms.length ≤ s.length := by
  induction ms generalizing first s with
  | nil => exact Nat.zero_le _
  | cons m ms ih =>
    cases laid with
    | next _ _ _ others =>
      have := ih others
      simp only [List.length_append, List.length_cons]
      omega

-- The items with their separators, each after the same blanks.
def itemsAfter (write : Json → List Char) (lead : List Char) (first : Bool) : List Json → List Char
  | [] => []
  | j :: js => separator first ++ (lead ++ (write j ++ itemsAfter write lead false js))

def membersAfter (write : Json → List Char) (lead gap : List Char) (first : Bool) : List (String × Json) → List Char
  | [] => []
  | (key, j) :: ms =>
    separator first ++ (lead ++ (stringText key ++ ':' :: (gap ++ (write j ++ membersAfter write lead gap false ms))))

variable {write : Json → List Char} {lead gap tail : List Char}

theorem laidItems_after {js : List Json} (each : ∀ j ∈ js, Laid j (write j)) (blank : Blank lead) (last : Blank tail)
    (first : Bool) : LaidItems first js (itemsAfter write lead first js ++ (tail ++ [']'])) := by
  induction js generalizing first with
  | nil => exact .close last
  | cons j js ih =>
    obtain ⟨item, rest⟩ := List.forall_mem_cons.mp each
    have laid : LaidItems first (j :: js) _ := .next blank item (ih rest false)
    simpa [itemsAfter] using laid

theorem laidMembers_after {ms : List (String × Json)} (each : ∀ m ∈ ms, Laid m.2 (write m.2)) (blank : Blank lead)
    (apart : Blank gap) (last : Blank tail) (first : Bool) :
    LaidMembers first ms (membersAfter write lead gap first ms ++ (tail ++ ['\x7d'])) := by
  induction ms generalizing first with
  | nil => exact .close last
  | cons m ms ih =>
    obtain ⟨key, j⟩ := m
    obtain ⟨member, rest⟩ := List.forall_mem_cons.mp each
    have laid : LaidMembers first ((key, j) :: ms) _ := .next blank apart member (ih rest false)
    simpa [membersAfter] using laid

theorem itemsText_eq (js : List Json) : itemsText js = itemsAfter text [] true js := by
  induction js with
  | nil => rfl
  | cons j js ih =>
    cases js with
    | nil => simp [itemsText, itemsAfter, separator]
    | cons next rest =>
      rw [itemsText, ih]
      simp [itemsAfter, separator]

theorem membersText_eq (ms : List (String × Json)) : membersText ms = membersAfter text [] [] true ms := by
  induction ms with
  | nil => rfl
  | cons m ms ih =>
    cases ms with
    | nil => simp [membersText, membersAfter, separator]
    | cons next rest =>
      rw [membersText, ih]
      simp [membersAfter, separator]

theorem prettyItems_eq (level : Nat) (js : List Json) :
    prettyItems level js = itemsAfter (prettyText level) (newline level) true js := by
  induction js with
  | nil => rfl
  | cons j js ih =>
    cases js with
    | nil => simp [prettyItems, itemsAfter, separator]
    | cons next rest =>
      rw [prettyItems, ih]
      simp [itemsAfter, separator]

theorem prettyMembers_eq (level : Nat) (ms : List (String × Json)) :
    prettyMembers level ms = membersAfter (prettyText level) (newline level) [' '] true ms := by
  induction ms with
  | nil => rfl
  | cons m ms ih =>
    cases ms with
    | nil => simp [prettyMembers, membersAfter, separator]
    | cons next rest =>
      rw [prettyMembers, ih]
      simp [membersAfter, separator]

theorem blank_nil : Blank [] := rfl

theorem blank_space : Blank [' '] := rfl

theorem blank_newline (level : Nat) : Blank (newline level) := by
  simp [Blank, newline, Reader.isSpace]

theorem prettyText_items {level : Nat} {js : List Json} (some : js ≠ []) :
    prettyText level (.array js) = '[' :: (prettyItems (level + 1) js ++ (newline level ++ [']'])) := by
  rw [prettyText, List.append_assoc]
  · rfl
  · exact some

theorem prettyText_members {level : Nat} {ms : List (String × Json)} (some : ms ≠ []) :
    prettyText level (.object ms) = '\x7b' :: (prettyMembers (level + 1) ms ++ (newline level ++ ['\x7d'])) := by
  rw [prettyText, List.append_assoc]
  · rfl
  · exact some

theorem sizeOf_member {ms : List (String × Json)} {m : String × Json} (member : m ∈ ms) :
    sizeOf m.2 < sizeOf (Json.object ms) := by
  have inside := List.sizeOf_lt_of_mem member
  obtain ⟨key, j⟩ := m
  simp only [Prod.mk.sizeOf_spec, object.sizeOf_spec] at inside ⊢
  omega

theorem laid_text (j : Json) : Laid j j.text := by
  cases j with
  | array js =>
    have each : ∀ j ∈ js, Laid j j.text := fun j _ => laid_text j
    have laid := laidItems_after each blank_nil blank_nil true
    rw [text, itemsText_eq]
    exact .array laid
  | object ms =>
    have each : ∀ m ∈ ms, Laid m.2 m.2.text := fun m _ => laid_text m.2
    have laid := laidMembers_after each blank_nil blank_nil blank_nil true
    rw [text, membersText_eq]
    exact .object laid
  | _ => exact .scalar rfl
termination_by sizeOf j
decreasing_by
  · decreasing_tactic
  · exact sizeOf_member ‹_›

theorem laid_prettyText (level : Nat) (j : Json) : Laid j (prettyText level j) := by
  cases j with
  | array js =>
    have each : ∀ j ∈ js, Laid j (prettyText (level + 1) j) := fun j _ => laid_prettyText (level + 1) j
    have laid := laidItems_after each (blank_newline (level + 1)) (blank_newline level) true
    by_cases none : js = []
    · subst none
      exact .array (laidItems_after each blank_nil blank_nil true)
    · rw [prettyText_items none, prettyItems_eq]
      exact .array laid
  | object ms =>
    have each : ∀ m ∈ ms, Laid m.2 (prettyText (level + 1) m.2) := fun m _ => laid_prettyText (level + 1) m.2
    have laid := laidMembers_after each (blank_newline (level + 1)) blank_space (blank_newline level) true
    by_cases none : ms = []
    · subst none
      exact .object (laidMembers_after each blank_nil blank_nil blank_nil true)
    · rw [prettyText_members none, prettyMembers_eq]
      exact .object laid
  | _ => exact .scalar rfl
termination_by sizeOf j
decreasing_by
  · decreasing_tactic
  · exact sizeOf_member ‹_›

end RouteQuote.Json
