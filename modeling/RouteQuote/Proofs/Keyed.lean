import Mathlib.Data.List.Induction
import RouteQuote.Keyed

namespace RouteQuote.Keyed

variable {rank : κ → Nat} {key other : κ} {value : α} {table pairs : List (κ × α)}

theorem get?_cons [BEq κ] (key other : κ) (value : α) (rest : List (κ × α)) :
    get? other ((key, value) :: rest) = if key == other then some value else get? other rest := by
  unfold get?
  rw [List.find?_cons]
  cases key == other <;> rfl

theorem get?_modify [BEq κ] [LawfulBEq κ] (key other : κ) (f : α → α) (table : List (κ × α)) :
    get? other (modify key f table) = if key == other then (get? other table).map f else get? other table := by
  induction table with
  | nil => simp [get?, modify]
  | cons pair rest ih =>
    obtain ⟨k, v⟩ := pair
    have step : modify key f ((k, v) :: rest) = (k, if k == key then f v else v) :: modify key f rest := by
      by_cases mine : k == key <;> simp [modify, mine]
    rw [step, get?_cons, get?_cons, ih]
    by_cases asked : k == other
    · obtain rfl := eq_of_beq asked
      by_cases mine : k = key
      · simp [mine]
      · simp [mine, Ne.symm mine]
    · simp [asked]

theorem mem_of_get? [BEq κ] [LawfulBEq κ] (found : get? key table = some value) : (key, value) ∈ table := by
  obtain ⟨⟨k, v⟩, at_, rfl⟩ := Option.map_eq_some_iff.mp found
  have same : k = key := by simpa using List.find?_some at_
  exact same ▸ List.mem_of_find?_eq_some at_

-- In strictly ascending order a key stands at one place only.
theorem get?_of_mem [BEq κ] [LawfulBEq κ] (ordered : Ordered rank table) (member : (key, value) ∈ table) :
    get? key table = some value := by
  induction table with
  | nil => cases member
  | cons head rest ih =>
    obtain ⟨above, ordered⟩ := List.pairwise_cons.mp ordered
    rw [get?_cons]
    rcases List.mem_cons.mp member with rfl | behind
    · simp
    · have apart : head.1 ≠ key := by
        intro same
        have below := above _ behind
        rw [same] at below
        exact Nat.lt_irrefl _ below
      simpa [apart] using ih ordered behind

theorem nodup_keys (ordered : Ordered rank table) : (table.map Prod.fst).Nodup := by
  unfold List.Nodup
  rw [List.pairwise_map]
  refine ordered.imp fun {one next} below same => ?_
  rw [same] at below
  exact Nat.lt_irrefl _ below

-- No order is needed: whatever has the key comes behind the place where the value is put.
theorem get?_insert [BEq κ] [LawfulBEq κ] (apart : Function.Injective rank) (key other : κ) (value : α)
    (table : List (κ × α)) :
    get? other (insert rank key value table) = if key == other then some value else get? other table := by
  induction table with
  | nil => rw [insert, get?_cons]
  | cons head rest ih =>
    obtain ⟨k, v⟩ := head
    rw [insert]
    split
    · rw [get?_cons]
    split
    · rename_i same
      obtain rfl := apart same
      rw [get?_cons, get?_cons]
      split <;> rfl
    · rename_i differs
      have distinct : k ≠ key := fun same => differs (congrArg rank same.symm)
      rw [get?_cons, get?_cons, ih]
      by_cases asked : k = other
      · simp [← asked, Ne.symm distinct]
      · simp [asked]

theorem perm_insert (fresh : ∀ pair ∈ table, rank pair.1 ≠ rank key) :
    (insert rank key value table).Perm ((key, value) :: table) := by
  induction table with
  | nil => exact .refl _
  | cons head rest ih =>
    obtain ⟨first, others⟩ := List.forall_mem_cons.mp fresh
    rw [insert]
    split
    · exact .refl _
    · rw [if_neg (Ne.symm first)]
      exact ((ih others).cons head).trans (.swap _ _ _)

theorem ofList_concat (pairs : List (κ × α)) (key : κ) (value : α) :
    ofList rank (pairs ++ [(key, value)]) = insert rank key value (ofList rank pairs) := by
  rw [ofList, List.foldl_append]
  rfl

theorem mem_ofList {pair : κ × α} (member : pair ∈ ofList rank pairs) : pair ∈ pairs := by
  induction pairs using List.reverseRecOn with
  | nil => exact member
  | append_singleton pairs last ih =>
    rw [ofList_concat] at member
    rcases mem_insert member with rfl | old
    · exact List.mem_append_right _ (List.mem_singleton.mpr rfl)
    · exact List.mem_append_left _ (ih old)

theorem ordered_ofList (pairs : List (κ × α)) : Ordered rank (ofList rank pairs) := by
  induction pairs using List.reverseRecOn with
  | nil => exact .nil
  | append_singleton pairs last ih =>
    rw [ofList_concat]
    exact ordered_insert ih _ _

-- The last of the pairs with the key decides.
theorem get?_ofList [BEq κ] [LawfulBEq κ] (apart : Function.Injective rank) (key : κ) (pairs : List (κ × α)) :
    get? key (ofList rank pairs) = get? key pairs.reverse := by
  induction pairs using List.reverseRecOn with
  | nil => rfl
  | append_singleton pairs last ih =>
    rw [ofList_concat, get?_insert apart, ih, List.reverse_append, List.reverse_singleton, List.singleton_append, get?_cons]

theorem keys_ofList [BEq κ] [LawfulBEq κ] (apart : Function.Injective rank) (key : κ) (pairs : List (κ × α)) :
    key ∈ (ofList rank pairs).map Prod.fst ↔ key ∈ pairs.map Prod.fst := by
  constructor
  · intro held
    obtain ⟨pair, member, rfl⟩ := List.mem_map.mp held
    exact List.mem_map_of_mem (mem_ofList member)
  · intro held
    obtain ⟨pair, member, rfl⟩ := List.mem_map.mp held
    cases found : get? pair.1 (ofList rank pairs) with
    | some value => exact List.mem_map.mpr ⟨_, mem_of_get? found, rfl⟩
    | none =>
      rw [get?_ofList apart, get?, Option.map_eq_none_iff, List.find?_eq_none] at found
      exact absurd (BEq.refl pair.1) (found pair (List.mem_reverse.mpr member))

theorem perm_ofList (distinct : pairs.Pairwise fun a b => rank a.1 ≠ rank b.1) : (ofList rank pairs).Perm pairs := by
  induction pairs using List.reverseRecOn with
  | nil => exact .refl _
  | append_singleton pairs last ih =>
    obtain ⟨before, -, apart⟩ := List.pairwise_append.mp distinct
    have fresh : ∀ pair ∈ ofList rank pairs, rank pair.1 ≠ rank last.1 :=
      fun pair member => apart pair (mem_ofList member) last (List.mem_singleton.mpr rfl)
    rw [ofList_concat]
    have put : (insert rank last.1 last.2 (ofList rank pairs)).Perm (last :: pairs) :=
      (perm_insert fresh).trans ((ih before).cons last)
    exact put.trans (List.perm_append_singleton last pairs).symm

end RouteQuote.Keyed
