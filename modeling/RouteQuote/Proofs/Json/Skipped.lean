import RouteQuote.Proofs.Json.Numbers

namespace RouteQuote.Json

theorem startsNumber_visible {c : Char} (starts : startsNumber c = true) : Reader.isSpace c = false ∧ c ≠ ']' := by
  constructor
  · by_contra space
    simp only [Bool.not_eq_false, Reader.isSpace, Bool.or_eq_true, beq_iff_eq] at space
    obtain ((rfl | rfl) | rfl) | rfl := space <;> cases starts
  · rintro rfl
    cases starts

theorem Formed.head {spare : Bool} {t : List Char} (formed : Formed spare t) :
    ∃ c u, t = c :: u ∧ Reader.isSpace c = false ∧ c ≠ ']' := by
  cases formed with
  | string quoted =>
    obtain ⟨u, _, rfl, _⟩ := quoted
    exact ⟨_, u, rfl, by decide, by decide⟩
  | number numeral =>
    obtain ⟨c, u, rfl, starts⟩ := numeral.head
    exact ⟨c, u, rfl, startsNumber_visible starts⟩
  | _ => exact ⟨_, _, rfl, by decide, by decide⟩

theorem Formed.length {spare : Bool} {t : List Char} (formed : Formed spare t) : 0 < t.length := by
  obtain ⟨c, u, rfl, _⟩ := formed.head
  exact Nat.succ_pos _

theorem Blank.append {s t : List Char} (front : Blank s) (back : Blank t) : Blank (s ++ t) := by
  rw [Blank, List.all_append, Bool.and_eq_true]
  exact ⟨front, back⟩

theorem Elements.indent {spare : Bool} {gap s : List Char} {ts : List (List Char)} (listed : Elements spare true s ts)
    (blank : Blank gap) : Elements spare true (gap ++ s) ts := by
  cases listed with
  | close last =>
    rw [← List.append_assoc]
    exact .close (blank.append last)
  | next between others =>
    cases between with
    | start before =>
      rw [← List.append_assoc]
      exact .next (.start (blank.append before)) others

theorem Members.indent {named : List Char → κ → Prop} {gap s : List Char} {ms : List (κ × List Char)}
    (listed : Members named true s ms) (blank : Blank gap) : Members named true (gap ++ s) ms := by
  cases listed with
  | close last =>
    rw [← List.append_assoc]
    exact .close (blank.append last)
  | next between spelled before inner others =>
    cases between with
    | start lead =>
      rw [← List.append_assoc]
      exact .next (.start (blank.append lead)) spelled before inner others

theorem Elements.later {spare : Bool} {gap s t : List Char} {ts : List (List Char)}
    (listed : Elements spare true s (t :: ts))
    (blank : Blank gap) : Elements spare false (gap ++ ',' :: s) (t :: ts) := by
  cases listed with
  | @next _ lead _ s _ between others =>
    cases between with
    | start after =>
      rw [← List.cons_append, ← List.append_assoc]
      exact .next (.comma blank after) others

theorem Members.later {named : List Char → κ → Prop} {gap s : List Char} {m : κ × List Char} {ms : List (κ × List Char)}
    (listed : Members named true s (m :: ms)) (blank : Blank gap) :
    Members named false (gap ++ ',' :: s) (m :: ms) := by
  cases listed with
  | next between spelled before inner others =>
    cases between with
    | start after =>
      rw [← List.cons_append, ← List.append_assoc]
      exact .next (.comma blank after) spelled before inner others

namespace Reader

variable {s rest : List Char}

def Passes (read : Reader Unit) (form : List Char → Prop) : Prop :=
  ∀ s rest, read s = .ok ((), rest) → ∃ t, s = t ++ rest ∧ form t

def Padded (s : List Char) : Prop := ∃ gap t, s = gap ++ t ∧ Blank gap ∧ Valid t

def SomeElements (s : List Char) : Prop := ∃ t ts, Elements false true s (t :: ts) ∧ ∀ u ∈ t :: ts, Valid u

def SomeMembers (s : List Char) : Prop := ∃ m ms, Members Unread true s (m :: ms) ∧ ∀ n ∈ m :: ms, Valid n.2

variable {fuel : Nat}

theorem skipItems_step (value : Passes (skipValue fuel) Padded) (items : Passes (skipItems fuel) SomeElements) :
    Passes (skipItems (fuel + 1)) SomeElements := by
  intro s rest said
  rw [skipItems, bind_eq_ok] at said
  obtain ⟨⟨⟩, mid, ran, said⟩ := said
  obtain ⟨_, rfl, lead, t, rfl, before, valid⟩ := value _ _ ran
  rw [peek_bind_eq_ok] at said
  obtain ⟨c, state, ahead, said⟩ := said
  split at said
  · cases said
  · cases ahead with
    | @some gap tail _ blank _ =>
      obtain ⟨u, rfl, t', ts, listed, each⟩ := items _ _ said
      refine ⟨lead ++ (t ++ (gap ++ ',' :: u)), by simp, t, t' :: ts, .next (.start before) (listed.later blank), ?_⟩
      exact List.forall_mem_cons.mpr ⟨valid, each⟩
  · cases ahead with
    | @some gap tail _ blank _ =>
      cases said
      refine ⟨lead ++ (t ++ (gap ++ [']'])), by simp, t, [], .next (.start before) (.close blank), ?_⟩
      exact List.forall_mem_cons.mpr ⟨valid, nofun⟩
  · cases said

-- A name, a colon and a value, and then a comma or the brace.
theorem skipMembers_step (value : Passes (skipValue fuel) Padded) (members : Passes (skipMembers fuel) SomeMembers) :
    Passes (skipMembers (fuel + 1)) SomeMembers := by
  intro s rest said
  rw [skipMembers, peek_bind_eq_ok] at said
  obtain ⟨c, state, ahead, said⟩ := said
  split at said
  · cases said
  · cases ahead with
    | @some lead tail _ before _ =>
      rw [bind_ok (advance_ok _ _), bind_eq_ok] at said
      obtain ⟨⟨⟩, mid, ran, said⟩ := said
      obtain ⟨name, rfl, cs, closed⟩ := (skipString_takes _ _ _).mp ran
      have spelled : Unread ('"' :: name) () := ⟨name, cs, rfl, closed⟩
      rw [peek_bind_eq_ok] at said
      obtain ⟨d, state, ahead, said⟩ := said
      split at said
      · cases said
      · cases ahead with
        | @some gap tail _ apart _ =>
          rw [bind_ok (advance_ok _ _), bind_eq_ok] at said
          obtain ⟨⟨⟩, mid, ran, said⟩ := said
          obtain ⟨_, rfl, inner, t, rfl, blank, valid⟩ := value _ _ ran
          rw [peek_bind_eq_ok] at said
          obtain ⟨e, state, ahead, said⟩ := said
          split at said
          · cases said
          · cases ahead with
            | @some last tail _ ending _ =>
              obtain ⟨u, rfl, m, ms, listed, each⟩ := members _ _ said
              exact ⟨_, by simp, ((), t), m :: ms, .next (.start before) spelled apart blank (listed.later ending),
                List.forall_mem_cons.mpr ⟨valid, each⟩⟩
          · cases ahead with
            | @some last tail _ ending _ =>
              cases said
              exact ⟨_, by simp, ((), t), [], .next (.start before) spelled apart blank (.close ending),
                List.forall_mem_cons.mpr ⟨valid, nofun⟩⟩
          · cases said
      · cases said
  · cases said

theorem skipValue_step (items : Passes (skipItems fuel) SomeElements)
    (members : Passes (skipMembers fuel) SomeMembers) : Passes (skipValue (fuel + 1)) Padded := by
  intro s rest said
  rw [skipValue, opening_bind_eq_ok] at said
  obtain ⟨gap, c, tail, blank, visible, rfl, said⟩ := said
  suffices value : ∃ t, c :: tail = t ++ rest ∧ Valid t by
    obtain ⟨t, front, valid⟩ := value
    exact ⟨gap ++ t, by rw [front, List.append_assoc], gap, t, rfl, blank, valid⟩
  split at said
  · rename_i named
    subst named
    exact ⟨_, advance_literal said, .nullText⟩
  split at said
  · rename_i named
    subst named
    exact ⟨_, advance_literal said, .trueText⟩
  split at said
  · rename_i named
    subst named
    exact ⟨_, advance_literal said, .falseText⟩
  split at said
  · rename_i quote
    subst quote
    rw [bind_ok (advance_ok _ _)] at said
    obtain ⟨t, rfl, cs, closed⟩ := (skipString_takes _ _ _).mp said
    exact ⟨_, rfl, .string ⟨t, cs, rfl, closed⟩⟩
  split at said
  · rename_i minus
    subst minus
    rw [bind_ok (advance_ok _ _)] at said
    obtain ⟨t, rfl, unsigned⟩ := skipNumber_eq_ok said
    exact ⟨_, rfl, .number (.negative unsigned)⟩
  split at said
  · obtain ⟨t, front, unsigned⟩ := skipNumber_eq_ok said
    exact ⟨t, front, .number (.positive unsigned)⟩
  split at said
  · rename_i bracket
    subst bracket
    rw [bind_ok (advance_ok _ _), peek_bind_eq_ok] at said
    obtain ⟨d, state, ahead, said⟩ := said
    split at said
    · cases said
    · cases ahead with
      | some inner _ =>
        cases said
        exact ⟨_, by simp, .array (.close inner) nofun⟩
    · cases ahead with
      | some inner _ =>
        obtain ⟨u, front, t', ts, listed, each⟩ := items _ _ said
        exact ⟨_, by rw [front, ← List.append_assoc, ← List.cons_append], .array (listed.indent inner) each⟩
  split at said
  · rename_i brace
    subst brace
    rw [bind_ok (advance_ok _ _), peek_bind_eq_ok] at said
    obtain ⟨d, state, ahead, said⟩ := said
    split at said
    · cases said
    · cases ahead with
      | some inner _ =>
        cases said
        exact ⟨_, by simp, .object (.close inner) nofun⟩
    · cases ahead with
      | some inner _ =>
        obtain ⟨u, front, m, ms, listed, each⟩ := members _ _ said
        exact ⟨_, by rw [front, ← List.append_assoc, ← List.cons_append], .object (listed.indent inner) each⟩
  · cases said

theorem skipValue_passes (fuel : Nat) : Passes (skipValue fuel) Padded ∧ Passes (skipItems fuel) SomeElements ∧
    Passes (skipMembers fuel) SomeMembers := by
  induction fuel with
  | zero => exact ⟨nofun, nofun, nofun⟩
  | succ fuel ih =>
    obtain ⟨value, items, members⟩ := ih
    exact ⟨skipValue_step items members, skipItems_step value items, skipMembers_step value members⟩

-- Fuel for as many values as the text has characters is enough.
def PassedOver (t : List Char) : Prop := ∀ fuel gap rest, t.length ≤ fuel → Blank gap → Ended t rest →
  skipValue fuel (gap ++ (t ++ rest)) = .ok ((), rest)

theorem skipItems_elements {ts : List (List Char)} (each : ∀ t ∈ ts, PassedOver t ∧ 0 < t.length) (some : ts ≠ [])
    {u : List Char} (listed : Elements false true u ts) (enough : u.length ≤ fuel) (rest : List Char) :
    skipItems fuel (u ++ rest) = .ok ((), rest) := by
  induction ts generalizing u fuel with
  | nil => exact absurd rfl some
  | cons t ts ih =>
    obtain ⟨⟨passed, long⟩, eachOther⟩ := List.forall_mem_cons.mp each
    cases listed with
    | @next _ lead _ s _ between others =>
      cases between with
      | start blank =>
        -- An item takes one of the fuel, and no item is empty.
        have positive := others.length
        simp only [List.length_append, separator_later, List.length_singleton] at enough positive
        obtain ⟨fuel, rfl⟩ := Nat.exists_eq_succ_of_ne_zero (n := fuel) (by omega)
        have value := passed fuel lead (s ++ rest) (by omega) blank (others.apart rest).ended
        rw [List.append_assoc, List.append_assoc, skipItems, bind_ok value]
        cases others with
        | close last =>
          rw [List.append_assoc, List.singleton_append, bind_ok (peek_blank last rfl rest)]
          rfl
        | spare allowed => cases allowed
        | @next _ _ t' s' ts between others =>
          cases between with
          | @comma gap lead before after =>
            have short : (lead ++ (t' ++ s')).length ≤ fuel := by
              simp only [List.length_append, List.length_cons] at enough ⊢
              omega
            have remaining := ih eachOther (List.cons_ne_nil _ _) (.next (.start after) others) short
            rw [List.append_assoc, List.append_assoc, List.cons_append, bind_ok (peek_blank before rfl _)]
            rw [List.append_assoc, List.append_assoc] at remaining
            rw [List.append_assoc]
            exact remaining

theorem skipMembers_members {ms : List (Unit × List Char)} (each : ∀ m ∈ ms, PassedOver m.2 ∧ 0 < m.2.length)
    (some : ms ≠ [])
    {u : List Char} (listed : Members Unread true u ms) (enough : u.length ≤ fuel) (rest : List Char) :
    skipMembers fuel (u ++ rest) = .ok ((), rest) := by
  induction ms generalizing u fuel with
  | nil => exact absurd rfl some
  | cons m ms ih =>
    obtain ⟨⟨passed, long⟩, eachOther⟩ := List.forall_mem_cons.mp each
    cases listed with
    | @next _ lead name gap inner t s _ _ between spelled before after others =>
      obtain ⟨v, cs, rfl, closed⟩ := spelled
      cases between with
      | start blank =>
        simp only [List.length_append, List.length_cons] at enough
        obtain ⟨fuel, rfl⟩ := Nat.exists_eq_succ_of_ne_zero (n := fuel) (by omega)
        have skipped := skipString_closed closed (gap ++ ':' :: (inner ++ (t ++ (s ++ rest))))
        have value := passed fuel inner (s ++ rest) (by dsimp only; omega) after (others.apart rest).ended
        have text : lead ++ ('"' :: v ++ (gap ++ ':' :: (inner ++ (t ++ s)))) ++ rest =
            lead ++ '"' :: (v ++ (gap ++ ':' :: (inner ++ (t ++ (s ++ rest))))) := by simp
        rw [text, skipMembers, bind_ok (peek_blank blank rfl _)]
        refine (bind_ok (advance_ok _ _) _).trans ?_
        rw [bind_ok skipped]
        refine (bind_ok (peek_blank before rfl _) _).trans ?_
        refine (bind_ok (advance_ok _ _) _).trans ?_
        refine (bind_ok value _).trans ?_
        cases others with
        | close last =>
          rw [List.append_assoc, List.singleton_append, bind_ok (peek_blank last rfl rest)]
          rfl
        | @next _ _ name' gap' inner' t' s' _ _ between spelled before' after' others =>
          cases between with
          | @comma _ lead behind ahead =>
            have short : (lead ++ (name' ++ (gap' ++ ':' :: (inner' ++ (t' ++ s'))))).length ≤ fuel := by
              simp only [List.length_append, List.length_cons] at enough ⊢
              omega
            have remaining := ih eachOther (List.cons_ne_nil _ _)
              (.next (.start ahead) spelled before' after' others) short
            rw [List.append_assoc, List.append_assoc, List.cons_append, bind_ok (peek_blank behind rfl _)]
            rw [List.append_assoc] at remaining
            exact remaining

theorem digit_ne {c d : Char} (digit : c.isDigit = true) (other : d.isDigit = false) : c ≠ d := by
  rintro rfl
  rw [digit] at other
  cases other

theorem skipValue_digit {c : Char} (digit : c.isDigit = true) {gap : List Char} (blank : Blank gap) (s : List Char) :
    skipValue (fuel + 1) (gap ++ c :: s) = skipNumber (c :: s) := by
  have visible : isSpace c = false := (startsNumber_visible (by simp [startsNumber, digit])).1
  rw [skipValue, bind_ok (opening_blank blank visible s), if_neg (digit_ne digit rfl), if_neg (digit_ne digit rfl),
    if_neg (digit_ne digit rfl), if_neg (digit_ne digit rfl), if_neg (digit_ne digit rfl), if_pos digit]

theorem passedOver_numeral {t : List Char} (numeral : Numeral t) : PassedOver t := by
  intro fuel gap rest enough blank ended
  obtain ⟨c, u, shape, starts⟩ := numeral.head
  have apart := ended ⟨c, by rw [shape]; rfl, starts⟩
  obtain ⟨fuel, rfl⟩ := Nat.exists_eq_succ_of_ne_zero (n := fuel) (by rw [shape, List.length_cons] at enough; omega)
  cases numeral with
  | positive unsigned =>
    obtain ⟨c, u, rfl, digit⟩ := unsigned.head
    exact (skipValue_digit digit blank _).trans (skipNumber_unsigned unsigned apart)
  | negative unsigned =>
    rw [List.cons_append, skipValue, bind_ok (opening_blank blank rfl _)]
    exact skipNumber_unsigned unsigned apart

theorem passedOver_array {s : List Char} {ts : List (List Char)} (listed : Elements false true s ts)
    (each : ∀ t ∈ ts, Valid t) (passed : ∀ t ∈ ts, PassedOver t) : PassedOver ('[' :: s) := by
  intro fuel gap rest enough blank _
  obtain ⟨fuel, rfl⟩ := Nat.exists_eq_succ_of_ne_zero (n := fuel) (by rw [List.length_cons] at enough; omega)
  rw [List.cons_append, skipValue, bind_ok (opening_blank blank rfl _)]
  refine (bind_ok (advance_ok _ _) _).trans ?_
  cases listed with
  | close last =>
    rw [List.append_assoc, List.singleton_append, bind_ok (peek_blank last rfl rest)]
    rfl
  | @next _ lead t s ts between others =>
    cases between with
    | start before =>
      obtain ⟨c, u, shape, visible, bracket⟩ := (each t List.mem_cons_self).head
      have both : ∀ t' ∈ t :: ts, PassedOver t' ∧ 0 < t'.length :=
        fun t' member => ⟨passed t' member, (each t' member).length⟩
      have short : ([] ++ (t ++ s)).length ≤ fuel := by
        simp only [List.length_append, List.length_cons, List.length_nil] at enough ⊢
        omega
      have remaining := skipItems_elements both (List.cons_ne_nil _ _) (.next (.start blank_nil) others) short rest
      rw [List.nil_append, List.append_assoc] at remaining
      subst shape
      rw [List.append_assoc, List.append_assoc, List.cons_append, bind_ok (peek_blank before visible _)]
      -- What stands first is not the bracket that closes.
      generalize same : some c = d
      split
      · cases same
      · cases same
        exact (bracket rfl).elim
      · exact remaining

theorem passedOver_object {s : List Char} {ms : List (Unit × List Char)} (listed : Members Unread true s ms)
    (each : ∀ m ∈ ms, Valid m.2) (passed : ∀ m ∈ ms, PassedOver m.2) : PassedOver ('\x7b' :: s) := by
  intro fuel gap rest enough blank _
  obtain ⟨fuel, rfl⟩ := Nat.exists_eq_succ_of_ne_zero (n := fuel) (by rw [List.length_cons] at enough; omega)
  rw [List.cons_append, skipValue, bind_ok (opening_blank blank rfl _)]
  refine (bind_ok (advance_ok _ _) _).trans ?_
  cases listed with
  | close last =>
    rw [List.append_assoc, List.singleton_append, bind_ok (peek_blank last rfl rest)]
    rfl
  | @next _ lead name inner after t s key ms between spelled before behind others =>
    cases between with
    | start blank =>
      have both : ∀ m ∈ (key, t) :: ms, PassedOver m.2 ∧ 0 < m.2.length :=
        fun m member => ⟨passed m member, (each m member).length⟩
      have short : ([] ++ (name ++ (inner ++ ':' :: (after ++ (t ++ s))))).length ≤ fuel := by
        simp only [List.length_append, List.length_cons, List.length_nil] at enough ⊢
        omega
      have remaining := skipMembers_members both (List.cons_ne_nil _ _)
        (.next (.start blank_nil) spelled before behind others) short rest
      obtain ⟨v, cs, rfl, closed⟩ := spelled
      rw [List.append_assoc]
      exact (bind_ok (peek_blank blank rfl _) _).trans remaining

theorem passedOver_valid {t : List Char} (valid : Valid t) : PassedOver t := by
  have positive : ∀ {c : Char} {u : List Char} {fuel : Nat}, (c :: u).length ≤ fuel → ∃ n, fuel = n + 1 :=
    fun enough => Nat.exists_eq_succ_of_ne_zero (Nat.ne_zero_of_lt enough)
  induction valid with
  | nullText | trueText | falseText =>
    intro fuel gap rest enough blank _
    obtain ⟨fuel, rfl⟩ := positive enough
    rw [List.cons_append, skipValue, bind_ok (opening_blank blank rfl _)]
    rfl
  | string quoted =>
    intro fuel gap rest enough blank _
    obtain ⟨u, cs, rfl, closed⟩ := quoted
    obtain ⟨fuel, rfl⟩ := positive enough
    rw [List.cons_append, skipValue, bind_ok (opening_blank blank rfl _)]
    exact skipString_closed closed rest
  | number numeral => exact passedOver_numeral numeral
  | array listed each ih => exact passedOver_array listed each ih
  | object listed each ih => exact passedOver_object listed each ih

theorem skip_eq_ok {s rest : List Char} (said : skip s = .ok ((), rest)) :
    ∃ gap t, Blank gap ∧ s = gap ++ (t ++ rest) ∧ Valid t := by
  rw [skip, bind_ok get_ok] at said
  obtain ⟨_, rfl, gap, t, rfl, blank, valid⟩ := (skipValue_passes _).1 _ _ said
  exact ⟨gap, t, blank, List.append_assoc .., valid⟩

theorem skip_valid {gap t rest : List Char} (blank : Blank gap) (valid : Valid t) (ended : Ended t rest) :
    skip (gap ++ (t ++ rest)) = .ok ((), rest) := by
  rw [skip, bind_ok get_ok]
  refine passedOver_valid valid _ gap rest ?_ blank ended
  simp only [List.length_append]
  omega

end Reader

end RouteQuote.Json
