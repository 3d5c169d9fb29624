namespace RouteQuote.Keyed

-- Puts a value under a key, in place of the one that was there.
def insert (rank : κ → Nat) (key : κ) (value : α) : List (κ × α) → List (κ × α)
  | [] => [(key, value)]
  | (k, v) :: rest =>
    if rank key < rank k then (key, value) :: (k, v) :: rest
    else if rank key = rank k then (key, value) :: rest
    else (k, v) :: insert rank key value rest

-- Puts all pairs in, one after the other; of several values for a key the last stays.
def ofList (rank : κ → Nat) (pairs : List (κ × α)) : List (κ × α) :=
  pairs.foldl (fun table (key, value) => insert rank key value table) []

def get? [BEq κ] (key : κ) (table : List (κ × α)) : Option α := (table.find? (·.1 == key)).map Prod.snd

-- Changes the value under a key, if there is one.
def modify [BEq κ] (key : κ) (f : α → α) (table : List (κ × α)) : List (κ × α) :=
  table.map fun (k, v) => if k == key then (k, f v) else (k, v)

def Ordered (rank : κ → Nat) (table : List (κ × α)) : Prop := table.Pairwise fun a b => rank a.1 < rank b.1

theorem mem_insert {rank : κ → Nat} {key : κ} {value : α} {table : List (κ × α)} {pair : κ × α}
    (member : pair ∈ insert rank key value table) : pair = (key, value) ∨ pair ∈ table := by
  induction table with
  | nil => simpa [insert] using member
  | cons head rest ih =>
    rw [insert] at member
    split at member
    · simpa using member
    · split at member
      · rcases List.mem_cons.1 member with same | inRest
        · exact .inl same
        · exact .inr (List.mem_cons_of_mem _ inRest)
      · rcases List.mem_cons.1 member with same | inRest
        · exact .inr (same ▸ List.mem_cons_self)
        · rcases ih inRest with same | old
          · exact .inl same
          · exact .inr (List.mem_cons_of_mem _ old)

theorem ordered_insert {rank : κ → Nat} {table : List (κ × α)} (ordered : Ordered rank table) (key : κ) (value : α) :
    Ordered rank (insert rank key value table) := by
  induction table with
  | nil => simp [insert, Ordered]
  | cons head rest ih =>
    obtain ⟨above, ordered⟩ := List.pairwise_cons.1 ordered
    rw [insert]
    split
    · rename_i below
      refine List.pairwise_cons.2 ⟨fun pair member => ?_, List.pairwise_cons.2 ⟨above, ordered⟩⟩
      rcases List.mem_cons.1 member with rfl | inRest
      · exact below
      · exact Nat.lt_trans below (above pair inRest)
    · split
      · rename_i same
        exact List.pairwise_cons.2 ⟨fun pair member => same ▸ above pair member, ordered⟩
      · rename_i notBelow notSame
        refine List.pairwise_cons.2 ⟨fun pair member => ?_, ih ordered⟩
        rcases mem_insert member with rfl | old
        · exact Nat.lt_of_le_of_ne (Nat.le_of_not_lt notBelow) (Ne.symm notSame)
        · exact above pair old

end RouteQuote.Keyed
