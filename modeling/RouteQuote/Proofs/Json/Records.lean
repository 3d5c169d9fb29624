import RouteQuote.Proofs.Json.Layout
import RouteQuote.Proofs.Json.Strings

namespace RouteQuote.Json

-- Every text of the value is read as what the value stands for, after any blanks and whatever follows it.
def Reads (read : Reader α) (j : Json) (a : α) : Prop :=
  ∀ s, Laid j s → ∀ gap, Blank gap → ∀ rest, read (gap ++ (s ++ rest)) = .ok (a, rest)

namespace Reads

variable {read : Reader α} {j : Json} {a : α}

theorem whole (reads : Reads read j a) {s : List Char} (laid : Laid j s) :
    Reader.whole read (String.ofList s) = .ok a := by
  have alone := reads s laid [] rfl []
  rw [List.append_nil, List.nil_append] at alone
  rw [Reader.whole, String.toList_ofList, alone]
  rfl

theorem written (reads : Reads read j a) :
    Reader.whole read j.render = .ok a ∧ Reader.whole read j.renderPretty = .ok a :=
  ⟨reads.whole (laid_text j), reads.whole (laid_prettyText 0 j)⟩

end Reads

namespace Reader

theorem dropWhile_blank {gap : List Char} (blank : Blank gap) {c : Char} (visible : isSpace c = false) (s : List Char) :
    (gap ++ c :: s).dropWhile isSpace = c :: s := by
  induction gap with
  | nil => exact List.dropWhile_cons_of_neg (by simp [visible])
  | cons d gap ih =>
    obtain ⟨space, rest⟩ : isSpace d = true ∧ Blank gap := by simpa [Blank] using blank
    rw [List.cons_append, List.dropWhile_cons_of_pos space, ih rest]

theorem peek_blank {gap : List Char} (blank : Blank gap) {c : Char} (visible : isSpace c = false) (s : List Char) :
    peek (gap ++ c :: s) = .ok (some c, c :: s) := by
  have skipped : skipSpace (gap ++ c :: s) = .ok ((), c :: s) :=
    congrArg (fun s => Except.ok ((), s)) (dropWhile_blank blank visible s)
  rw [peek, bind_ok skipped, bind_ok get_ok]
  rfl

theorem opening_blank {gap : List Char} (blank : Blank gap) {c : Char} (visible : isSpace c = false) (s : List Char) :
    opening (gap ++ c :: s) = .ok (c, c :: s) := by
  rw [opening, bind_ok (peek_blank blank visible s)]
  rfl

theorem advance_ok (c : Char) (s : List Char) : advance (c :: s) = .ok ((), s) := rfl

theorem colon_ok (s : List Char) : colon (':' :: s) = .ok ((), s) := rfl

end Reader

namespace Slots

variable {fs : List Field} {key : String} {j : Json} {ms : List (String × Json)}

-- The member is read as the value of the field of its name, which had none.
inductive Fills (key : String) (j : Json) : (fs : List Field) → Slots fs → Slots fs → Prop
  | here {f : Field} {fs : List Field} {slots : Slots fs} {a : f.α} (named : f.key = key) (reads : Reads f.read j a) :
    Fills key j (f :: fs) (none, slots) (some a, slots)
  | there {f : Field} {fs : List Field} {slot : Option f.α} {slots after : Slots fs} (other : f.key ≠ key)
    (fills : Fills key j fs slots after) : Fills key j (f :: fs) (slot, slots) (slot, after)

inductive Filled {fs : List Field} : Slots fs → List (String × Json) → Slots fs → Prop
  | done {slots : Slots fs} : Filled slots [] slots
  | next {slots middle after : Slots fs} {key : String} {j : Json} {ms : List (String × Json)}
    (fills : Fills key j fs slots middle) (filled : Filled middle ms after) : Filled slots ((key, j) :: ms) after

def full : (fs : List Field) → Row fs → Slots fs
  | [], _ => ()
  | _ :: fs, (a, row) => (some a, full fs row)

theorem member_here {f : Field} {slots : Slots fs} (named : f.key = key) :
    member key (f :: fs) (none, slots) = some (do Reader.colon; return (some (← f.read), slots)) := if_pos named

theorem member_there {f : Field} {slot : Option f.α} {slots : Slots fs} (other : f.key ≠ key) :
    member key (f :: fs) (slot, slots) = (member key fs slots).map fun read => do return (slot, ← read) := if_neg other

theorem member_fills {slots after : Slots fs} (fills : Fills key j fs slots after) : ∃ read,
    slots.member key = some read ∧ ∀ t, Laid j t → ∀ gap, Blank gap → ∀ rest,
      read (':' :: (gap ++ (t ++ rest))) = .ok (after, rest) := by
  induction fills with
  | here named reads =>
    refine ⟨_, member_here named, ?_⟩
    intro t laid gap blank rest
    rw [Reader.bind_ok (Reader.colon_ok _), Reader.bind_ok (reads t laid gap blank rest)]
    rfl
  | there other fills ih =>
    obtain ⟨read, found, filled⟩ := ih
    refine ⟨_, (member_there other).trans (congrArg (Option.map _) found), ?_⟩
    intro t laid gap blank rest
    exact Reader.bind_ok (filled t laid gap blank rest) _

theorem Filled.there {f : Field} {slot : Option f.α} {slots after : Slots fs} (filled : Filled slots ms after)
    (others : ∀ m ∈ ms, f.key ≠ m.1) : @Filled (f :: fs) (slot, slots) ms (slot, after) := by
  induction filled with
  | done => exact .done
  | next fills filled ih =>
    obtain ⟨other, rest⟩ := List.forall_mem_cons.mp others
    exact .next (.there other fills) (ih rest)

theorem complete_full (fs : List Field) (row : Row fs) (s : List Char) : complete fs (full fs row) s = .ok (row, s) := by
  induction fs with
  | nil => rfl
  | cons f fs ih =>
    obtain ⟨a, row⟩ := row
    rw [full, complete]
    simp only [Option.some_or]
    rw [Reader.bind_ok (ih row)]
    rfl

def Written : (fs : List Field) → Row fs → List (String × Json) → Prop
  | [], _, [] => True
  | f :: fs, (a, row), (key, j) :: ms => key = f.key ∧ Reads f.read j a ∧ Written fs row ms
  | _, _, _ => False

theorem Written.keys {row : Row fs} (written : Written fs row ms) : ms.map Prod.fst = fs.map Field.key := by
  induction fs generalizing ms with
  | nil =>
    cases ms with
    | nil => rfl
    | cons m ms => cases written
  | cons f fs ih =>
    cases ms with
    | nil => cases written
    | cons m ms =>
      obtain ⟨named, _, rest⟩ := written
      rw [List.map_cons, named, ih rest, List.map_cons]

theorem Written.filled {row : Row fs} (written : Written fs row ms) (distinct : (fs.map Field.key).Nodup) :
    Filled (empty fs) ms (full fs row) := by
  induction fs generalizing ms with
  | nil =>
    cases ms with
    | nil => exact .done
    | cons m ms => cases written
  | cons f fs ih =>
    cases ms with
    | nil => cases written
    | cons m ms =>
      obtain ⟨named, reads, rest⟩ := written
      obtain ⟨fresh, distinct⟩ := List.nodup_cons.mp distinct
      have others : ∀ m ∈ ms, f.key ≠ m.1 := by
        intro m member same
        exact fresh (rest.keys ▸ same ▸ List.mem_map_of_mem member)
      obtain ⟨key, j⟩ := m
      exact .next (.here named.symm reads) ((ih rest distinct).there others)

end Slots

namespace Reader

theorem hasMember_comma (s : List Char) : hasMember false (',' :: s) = (do
    match ← peek with
    | none => throw .unfinished
    | some '"' => return true
    | some _ => throw .malformed : Reader Bool) s := rfl

theorem hasMember_next {lead : List Char} (blank : Blank lead) (first : Bool) (key : String) (s : List Char) :
    hasMember first (separator first ++ (lead ++ (stringText key ++ s))) = .ok (true, stringText key ++ s) := by
  rw [stringText_append]
  have quote := peek_blank blank (c := '"') rfl (key.toList.flatMap escapeChar ++ '"' :: s)
  cases first with
  | true =>
    rw [separator_first, List.nil_append, hasMember, bind_ok quote]
    rfl
  | false =>
    rw [separator_later, List.singleton_append, hasMember_comma, bind_ok quote]
    rfl

theorem hasMember_close {tail : List Char} (blank : Blank tail) (first : Bool) (s : List Char) :
    hasMember first (tail ++ '\x7d' :: s) = .ok (false, '\x7d' :: s) := by
  rw [hasMember, bind_ok (peek_blank blank rfl s)]
  rfl

variable {fs : List Field} {ms : List (String × Json)}

theorem recordMembers_filled {slots after : Slots fs} (filled : Slots.Filled slots ms after) {row : Row fs}
    (complete : after = Slots.full fs row) {fuel : Nat} (enough : ms.length < fuel) {first : Bool} {s : List Char}
    (laid : LaidMembers first ms s) (rest : List Char) : recordMembers fs slots first fuel (s ++ rest) = .ok (row, rest) := by
  induction filled generalizing first fuel s with
  | done =>
    subst complete
    obtain ⟨fuel, rfl⟩ := Nat.exists_eq_succ_of_ne_zero (Nat.ne_zero_of_lt enough)
    cases laid with
    | close blank =>
      rw [List.append_assoc, List.singleton_append, recordMembers, bind_ok (hasMember_close blank first rest),
        if_neg Bool.false_ne_true, bind_ok (Slots.complete_full fs row _)]
      rfl
  | @next slots middle after key j ms fills filled ih =>
    obtain ⟨fuel, rfl⟩ := Nat.exists_eq_succ_of_ne_zero (Nat.ne_zero_of_lt enough)
    obtain ⟨read, found, reads⟩ := Slots.member_fills fills
    cases laid with
    | @next _ lead gap t s _ _ _ blank apart member others =>
      have remaining := ih complete (Nat.lt_of_succ_lt_succ enough) others
      have follows := hasMember_next blank first key (':' :: (gap ++ (t ++ (s ++ rest))))
      have text : separator first ++ (lead ++ (stringText key ++ ':' :: (gap ++ (t ++ s)))) ++ rest =
          separator first ++ (lead ++ (stringText key ++ ':' :: (gap ++ (t ++ (s ++ rest))))) := by simp
      rw [text]
      rw [recordMembers, bind_ok follows, if_pos rfl, bind_ok (memberName_stringText key _)]
      simp only [found]
      rw [bind_ok (reads t member gap apart _)]
      exact remaining

theorem record_filled {name : String} {row : Row fs} (distinct : (fs.map Field.key).Nodup)
    (written : Slots.Written fs row ms) : Reads (record name fs) (.object ms) row := by
  intro s laid gap blank rest
  cases laid with
  | scalar plain => cases plain
  | @object _ s members =>
    have enough : ms.length < (s ++ rest).length + 1 := by
      have := members.length
      rw [List.length_append]
      omega
    rw [List.cons_append, record, bind_ok (opening_blank blank rfl _), if_pos rfl, bind_ok (advance_ok _ _), bind_ok get_ok]
    exact recordMembers_filled (written.filled distinct) rfl enough members rest

theorem reads_record {name : String} {next : Row fs → Reader α} {a : α} (row : Row fs)
    (distinct : (fs.map Field.key).Nodup) (written : Slots.Written fs row ms)
    (made : ∀ rest, next row rest = .ok (a, rest)) : Reads (record name fs >>= next) (.object ms) a := by
  intro s laid gap blank rest
  rw [bind_ok (record_filled distinct written s laid gap blank rest)]
  exact made rest

theorem hasItem_comma (s : List Char) : hasItem false (',' :: s) = (do
    match ← peek with
    | none => throw .unfinished
    | some ']' => throw .malformed
    | some _ => return true : Reader Bool) s := rfl

theorem hasItem_next {lead : List Char} (blank : Blank lead) (first : Bool) (s : List Char) :
    hasItem first (separator first ++ (lead ++ '\x7b' :: s)) = .ok (true, '\x7b' :: s) := by
  have brace := peek_blank blank (c := '\x7b') rfl s
  cases first with
  | true =>
    rw [separator_first, List.nil_append, hasItem, bind_ok brace]
    rfl
  | false =>
    rw [separator_later, List.singleton_append, hasItem_comma, bind_ok brace]
    rfl

theorem hasItem_close {tail : List Char} (blank : Blank tail) (first : Bool) (s : List Char) :
    hasItem first (tail ++ ']' :: s) = .ok (false, ']' :: s) := by
  rw [hasItem, bind_ok (peek_blank blank rfl s)]
  rfl

variable {item : Reader α} {members : α → List (String × Json)}

-- The items of an array of objects, each of them read as what it was written for.
theorem items_read (reads : ∀ a, Reads item (.object (members a)) a) (as : List α) {fuel : Nat} (enough : as.length < fuel)
    {first : Bool} {s : List Char} (laid : LaidItems first (as.map fun a => .object (members a)) s) (rest : List Char) :
    items item first fuel (s ++ rest) = .ok (as, rest) := by
  induction as generalizing first fuel s with
  | nil =>
    obtain ⟨fuel, rfl⟩ := Nat.exists_eq_succ_of_ne_zero (Nat.ne_zero_of_lt enough)
    cases laid with
    | close blank =>
      rw [List.append_assoc, List.singleton_append, items, bind_ok (hasItem_close blank first rest)]
      rfl
  | cons a as ih =>
    obtain ⟨fuel, rfl⟩ := Nat.exists_eq_succ_of_ne_zero (Nat.ne_zero_of_lt enough)
    cases laid with
    | @next _ lead t s _ _ blank object others =>
      have remaining := ih (Nat.lt_of_succ_lt_succ enough) others
      have read := reads a t object [] rfl (s ++ rest)
      cases object with
      | scalar plain => cases plain
      | @object _ t _ =>
        rw [List.nil_append, List.cons_append] at read
        have follows := hasItem_next blank first (t ++ (s ++ rest))
        have text : separator first ++ (lead ++ ('\x7b' :: t ++ s)) ++ rest =
            separator first ++ (lead ++ '\x7b' :: (t ++ (s ++ rest))) := by simp
        rw [text]
        rw [items, bind_ok follows, if_pos rfl, bind_ok read, bind_ok remaining]
        rfl

theorem reads_array (reads : ∀ a, Reads item (.object (members a)) a) (as : List α) :
    Reads (arrayOf item) (.array (as.map fun a => .object (members a))) as := by
  intro s laid gap blank rest
  cases laid with
  | scalar plain => cases plain
  | @array _ s laid =>
    have enough : as.length < (s ++ rest).length + 1 := by
      have := laid.length
      rw [List.length_map] at this
      rw [List.length_append]
      omega
    rw [List.cons_append, arrayOf, bind_ok (opening_blank blank rfl _), if_pos rfl, bind_ok (advance_ok _ _),
      bind_ok get_ok]
    exact items_read reads as enough laid rest

end Reader

end RouteQuote.Json
