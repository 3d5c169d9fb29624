import RouteQuote.Proofs.Json.Skipped

namespace RouteQuote.Json

variable {spare first : Bool} {t t' s s' r r' : List Char} {ts ts' : List (List Char)}

-- Where the value ends does not depend on how the text is taken apart.
def EndsOnce (spare : Bool) (t : List Char) : Prop := ∀ {t' r r'}, Formed spare t' → Ended t r → Ended t' r' →
  t ++ r = t' ++ r' → t = t'

theorem Between.unique {lead lead' u u' : List Char} {c c' : Char} (between : Between first lead)
    (between' : Between first lead') (visible : Reader.isSpace c = false) (visible' : Reader.isSpace c' = false)
    (same : lead ++ c :: u = lead' ++ c' :: u') : lead = lead' ∧ c = c' ∧ u = u' := by
  cases between with
  | start blank =>
    cases between' with
    | start blank' => exact Reader.blank_cons_unique blank blank' visible visible' same
  | comma before after =>
    cases between' with
    | comma before' after' =>
      rw [List.append_assoc, List.append_assoc] at same
      obtain ⟨rfl, -, same⟩ := Reader.blank_cons_unique before before' rfl rfl same
      obtain ⟨rfl, rfl, rfl⟩ := Reader.blank_cons_unique after after' visible visible' same
      exact ⟨rfl, rfl, rfl⟩

-- An item does not begin like the end of an array.
theorem Between.ne_close {lead tail u u' : List Char} {c d : Char} (between : Between first lead) (blank : Blank tail)
    (visible : Reader.isSpace c = false) (closing : Reader.isSpace d = false) (comma : d ≠ ',') (other : c ≠ d) :
    lead ++ c :: u ≠ tail ++ d :: u' := by
  intro same
  cases between with
  | start before =>
    obtain ⟨-, rfl, -⟩ := Reader.blank_cons_unique before blank visible closing same
    exact other rfl
  | comma before after =>
    rw [List.append_assoc] at same
    obtain ⟨-, rfl, -⟩ := Reader.blank_cons_unique before blank rfl closing same
    exact comma rfl

-- Behind the blanks stands a bracket, a comma or an item, and the two lists have to agree in which.
theorem Elements.unique (listed : Elements spare first s ts) (listed' : Elements spare first s' ts')
    (each : ∀ t ∈ ts, EndsOnce spare t ∧ Formed spare t) (each' : ∀ t ∈ ts', Formed spare t)
    (same : s ++ r = s' ++ r') : s = s' ∧ ts = ts' := by
  induction listed generalizing s' ts' with
  | close blank =>
    cases listed' with
    | close blank' =>
      simp only [List.append_assoc, List.singleton_append] at same
      obtain ⟨rfl, -, -⟩ := Reader.blank_cons_unique blank blank' rfl rfl same
      exact ⟨rfl, rfl⟩
    | spare _ before =>
      simp only [List.append_assoc, List.cons_append, List.nil_append] at same
      obtain ⟨-, other, -⟩ := Reader.blank_cons_unique blank before rfl rfl same
      cases other
    | next between others =>
      obtain ⟨c, u, rfl, visible, bracket⟩ := (each' _ List.mem_cons_self).head
      simp only [List.append_assoc, List.cons_append, List.nil_append] at same
      exact absurd same.symm (between.ne_close blank visible rfl (by decide) bracket)
  | spare _ before after =>
    cases listed' with
    | close blank' =>
      simp only [List.append_assoc, List.cons_append, List.nil_append] at same
      obtain ⟨-, other, -⟩ := Reader.blank_cons_unique before blank' rfl rfl same
      cases other
    | spare _ before' after' =>
      simp only [List.append_assoc, List.cons_append, List.nil_append] at same
      obtain ⟨rfl, -, same⟩ := Reader.blank_cons_unique before before' rfl rfl same
      obtain ⟨rfl, -, -⟩ := Reader.blank_cons_unique after after' rfl rfl same
      exact ⟨rfl, rfl⟩
    | next between others =>
      obtain ⟨c, u, rfl, visible, bracket⟩ := (each' _ List.mem_cons_self).head
      cases between with
      | comma before' after' =>
        simp only [List.append_assoc, List.cons_append, List.nil_append] at same
        obtain ⟨rfl, -, same⟩ := Reader.blank_cons_unique before before' rfl rfl same
        obtain ⟨-, rfl, -⟩ := Reader.blank_cons_unique after after' rfl visible same
        exact absurd rfl bracket
  | @next first lead t s ts between others ih =>
    obtain ⟨⟨once, formed⟩, eachOther⟩ := List.forall_mem_cons.mp each
    obtain ⟨c, u, shape, visible, bracket⟩ := formed.head
    cases listed' with
    | close blank' =>
      simp only [shape, List.append_assoc, List.cons_append, List.nil_append] at same
      exact absurd same (between.ne_close blank' visible rfl (by decide) bracket)
    | spare _ before' after' =>
      cases between with
      | comma before after =>
        simp only [shape, List.append_assoc, List.cons_append, List.nil_append] at same
        obtain ⟨rfl, -, same⟩ := Reader.blank_cons_unique before before' rfl rfl same
        obtain ⟨-, rfl, -⟩ := Reader.blank_cons_unique after after' visible rfl same
        exact absurd rfl bracket
    | @next _ lead' t' s' ts' between' others' =>
      obtain ⟨formed', eachOther'⟩ := List.forall_mem_cons.mp each'
      obtain ⟨c', u', shape', visible', -⟩ := formed'.head
      have fronts : lead ++ c :: (u ++ (s ++ r)) = lead' ++ c' :: (u' ++ (s' ++ r')) := by
        simpa [shape, shape'] using same
      obtain ⟨rfl, rfl, behind⟩ := between.unique between' visible visible' fronts
      have items : t ++ (s ++ r) = t' ++ (s' ++ r') := by
        rw [shape, shape', List.cons_append, List.cons_append, behind]
      -- What follows an item does not go on with it, so both items end at one place.
      obtain rfl := once formed' (others.apart r).ended (others'.apart r').ended items
      obtain ⟨rfl, rfl⟩ := ih others' eachOther eachOther' (List.append_cancel_left items)
      exact ⟨rfl, rfl⟩

variable {named : List Char → κ → Prop} {ms ms' : List (κ × List Char)}

-- Names begin with a quote, and one name stands in front of a text.
structure Spells (named : List Char → κ → Prop) : Prop where
  quote : ∀ {t key}, named t key → ∃ u, t = '"' :: u
  once : ∀ {t t' key key' r r'}, named t key → named t' key' → t ++ r = t' ++ r' → t = t' ∧ key = key'

theorem Members.unique (spells : Spells named) (listed : Members named first s ms)
    (listed' : Members named first s' ms')
    (each : ∀ m ∈ ms, EndsOnce spare m.2 ∧ Formed spare m.2) (each' : ∀ m ∈ ms', Formed spare m.2)
    (same : s ++ r = s' ++ r') : s = s' ∧ ms = ms' := by
  induction listed generalizing s' ms' with
  | close blank =>
    cases listed' with
    | close blank' =>
      simp only [List.append_assoc, List.singleton_append] at same
      obtain ⟨rfl, -, -⟩ := Reader.blank_cons_unique blank blank' rfl rfl same
      exact ⟨rfl, rfl⟩
    | next between spelled _ _ _ =>
      obtain ⟨u, rfl⟩ := spells.quote spelled
      simp only [List.append_assoc, List.cons_append, List.nil_append] at same
      exact absurd same.symm (between.ne_close blank rfl rfl (by decide) (by decide))
  | @next first lead name gap inner t s key ms between spelled before after others ih =>
    obtain ⟨⟨once, formed⟩, eachOther⟩ := List.forall_mem_cons.mp each
    obtain ⟨v, quote⟩ := spells.quote spelled
    cases listed' with
    | close blank' =>
      simp only [quote, List.append_assoc, List.cons_append, List.nil_append] at same
      exact absurd same (between.ne_close blank' rfl rfl (by decide) (by decide))
    | @next _ lead' name' gap' inner' t' s' key' ms' between' spelled' before' after' others' =>
      obtain ⟨formed', eachOther'⟩ := List.forall_mem_cons.mp each'
      obtain ⟨v', quote'⟩ := spells.quote spelled'
      simp only [List.append_assoc, List.cons_append] at same
      have fronts := same
      rw [quote, quote', List.cons_append, List.cons_append] at fronts
      obtain ⟨rfl, -, -⟩ := between.unique between' rfl rfl fronts
      have names := List.append_cancel_left same
      obtain ⟨rfl, rfl⟩ := spells.once spelled spelled' names
      obtain ⟨rfl, -, values⟩ := Reader.blank_cons_unique before before' rfl rfl (List.append_cancel_left names)
      obtain ⟨c, u, shape, visible, -⟩ := formed.head
      obtain ⟨c', u', shape', visible', -⟩ := formed'.head
      dsimp only at shape shape'
      have fronts := values
      rw [shape, shape', List.cons_append, List.cons_append] at fronts
      obtain ⟨rfl, -, -⟩ := Reader.blank_cons_unique after after' visible visible' fronts
      have items := List.append_cancel_left values
      obtain rfl := once formed' (others.apart r).ended (others'.apart r').ended items
      obtain ⟨rfl, rfl⟩ := ih others' eachOther eachOther' (List.append_cancel_left items)
      exact ⟨rfl, rfl⟩

theorem spells_unread : Spells Unread where
  quote := by
    rintro t key ⟨u, _, rfl, _⟩
    exact ⟨u, rfl⟩
  once spelled spelled' same := ⟨spelled.unique spelled' same, rfl⟩

theorem spells_quoted : Spells Quoted where
  quote := by
    rintro t key ⟨u, rfl, _⟩
    exact ⟨u, rfl⟩
  once spelled spelled' same := spelled.unique spelled' same

theorem LooselyQuoted.quote {c : Char} {u : List Char} (quoted : LooselyQuoted (c :: u)) : c = '"' := by
  obtain ⟨v, _, shape, _⟩ := quoted
  exact (List.cons.inj shape).1

theorem Numeral.starts {c : Char} {u : List Char} (numeral : Numeral (c :: u)) : startsNumber c = true := by
  obtain ⟨d, v, shape, starts⟩ := numeral.head
  rwa [(List.cons.inj shape).1]

theorem Formed.unique (formed : Formed spare t) : EndsOnce spare t := by
  induction formed with
  | nullText | trueText | falseText =>
    intro t' r r' formed' _ _ same
    obtain ⟨c, u, rfl, -⟩ := formed'.head
    obtain ⟨rfl, -⟩ := List.cons.inj same
    cases formed' with
    | string quoted => cases quoted.quote
    | number numeral => cases numeral.starts
    | _ => rfl
  | string quoted =>
    intro t' r r' formed' _ _ same
    obtain ⟨c, u, rfl, -⟩ := formed'.head
    obtain ⟨v, cs, rfl, closed⟩ := quoted
    obtain ⟨rfl, -⟩ := List.cons.inj same
    cases formed' with
    | string quoted => exact LooselyQuoted.unique ⟨v, cs, rfl, closed⟩ quoted same
    | number numeral => cases numeral.starts
  | number numeral =>
    intro t' r r' formed' ended ended' same
    obtain ⟨c, u, rfl, -⟩ := formed'.head
    obtain ⟨d, v, rfl, starts⟩ := numeral.head
    obtain ⟨rfl, -⟩ := List.cons.inj same
    cases formed' with
    | string quoted =>
      rw [quoted.quote] at starts
      cases starts
    | number numeral' => exact numeral.unique numeral' (ended ⟨d, rfl, starts⟩) (ended' ⟨d, rfl, starts⟩) same
    | _ => cases starts
  | array listed each ih =>
    intro t' r r' formed' _ _ same
    obtain ⟨c, u, rfl, -⟩ := formed'.head
    obtain ⟨rfl, inside⟩ := List.cons.inj same
    cases formed' with
    | string quoted => cases quoted.quote
    | number numeral => cases numeral.starts
    | array listed' each' =>
      obtain ⟨rfl, -⟩ := listed.unique listed' (fun t member => ⟨ih t member, each t member⟩) each' inside
      rfl
  | object listed each ih =>
    intro t' r r' formed' _ _ same
    obtain ⟨c, u, rfl, -⟩ := formed'.head
    obtain ⟨rfl, inside⟩ := List.cons.inj same
    cases formed' with
    | string quoted => cases quoted.quote
    | number numeral => cases numeral.starts
    | object listed' each' =>
      obtain ⟨rfl, -⟩ := listed.unique spells_unread listed' (fun m member => ⟨ih m member, each m member⟩) each' inside
      rfl

end RouteQuote.Json
