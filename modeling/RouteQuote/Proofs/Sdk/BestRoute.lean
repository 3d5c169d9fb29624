import Mathlib.Order.Fin.Basic
import Mathlib.Order.MinMax
import RouteQuote.Sdk.Quotes

namespace RouteQuote.BestRoute

-- What is known of the best so far when these routes have been seen, in this order.
def Leads (seen : List BestRoute) : Amount × Option BestRoute → Prop
  | (most, none) => most = .zero ∧ ∀ r ∈ seen, r.destQuery.minAmountOut = .zero
  | (most, some b) => ∃ before after, seen = before ++ b :: after ∧
      b.destQuery.minAmountOut = most ∧ Amount.zero < most ∧
      (∀ r ∈ before, r.destQuery.minAmountOut < most) ∧ ∀ r ∈ after, r.destQuery.minAmountOut ≤ most

theorem eq_zero_of_not_lt {a : Amount} (small : ¬ Amount.zero < a) : a = .zero := by
  have : a.val = 0 := Nat.eq_zero_of_not_pos small
  exact Fin.ext this

theorem Leads.le {seen : List BestRoute} {best : Amount × Option BestRoute} (lead : Leads seen best) :
    ∀ r ∈ seen, r.destQuery.minAmountOut ≤ best.1 := by
  obtain ⟨most, route⟩ := best
  cases route with
  | none =>
    intro r member
    have equal : r.destQuery.minAmountOut = most := (lead.2 r member).trans lead.1.symm
    exact Nat.le_of_eq (congrArg Fin.val equal)
  | some b =>
    obtain ⟨before, after, rfl, same, _, lower, upper⟩ := lead
    intro r member
    rcases List.mem_append.mp member with early | late
    · exact Fin.le_of_lt (lower r early)
    · rcases List.mem_cons.mp late with rfl | after
      · exact Fin.le_of_eq same
      · exact upper r after

theorem leads_better {seen : List BestRoute} {best : Amount × Option BestRoute} (lead : Leads seen best)
    (next : BestRoute) : Leads (seen ++ [next]) (better best next) := by
  by_cases higher : best.1 < next.destQuery.minAmountOut
  · have positive : Amount.zero < next.destQuery.minAmountOut := Nat.lt_of_le_of_lt (Nat.zero_le _) higher
    simp only [better, if_pos higher]
    exact ⟨seen, [], rfl, rfl, positive, fun r member => Fin.lt_of_le_of_lt (lead.le r member) higher, by simp⟩
  · obtain ⟨most, route⟩ := best
    simp only [better, if_neg higher]
    cases route with
    | none =>
      obtain ⟨rfl, zeros⟩ := lead
      refine ⟨rfl, fun r member => ?_⟩
      rcases List.mem_append.mp member with old | new
      · exact zeros r old
      · rw [List.mem_singleton.mp new]
        exact eq_zero_of_not_lt higher
    | some b =>
      obtain ⟨before, after, rfl, same, positive, lower, upper⟩ := lead
      refine ⟨before, after ++ [next], by simp, same, positive, lower, fun r member => ?_⟩
      rcases List.mem_append.mp member with old | new
      · exact upper r old
      · rw [List.mem_singleton.mp new]
        exact Fin.not_lt.mp higher

theorem leads_foldl {seen : List BestRoute} {best : Amount × Option BestRoute} (lead : Leads seen best)
    (routes : List BestRoute) : Leads (seen ++ routes) (routes.foldl better best) := by
  induction routes generalizing seen best with
  | nil => simpa using lead
  | cons next rest ih =>
    have step := ih (leads_better lead next)
    simpa using step

theorem leads_select (candidates : List BridgeToken) (originQueries destQueries : List Query) :
    Leads (all candidates originQueries destQueries) (select candidates originQueries destQueries) := by
  have start : Leads [] (Amount.zero, none) := ⟨rfl, by simp⟩
  simpa [select] using leads_foldl start (all candidates originQueries destQueries)

theorem getElem?_all {candidates : List BridgeToken} {originQueries destQueries : List Query} {i : Nat}
    {r : BestRoute} : (all candidates originQueries destQueries)[i]? = some r ↔
      r.index = i ∧ originQueries[i]? = some r.originQuery ∧ destQueries[i]? = some r.destQuery ∧
      ∃ candidate, candidates[i]? = some candidate ∧ r.bridgeToken = candidate.token := by
  rw [all, List.getElem?_map, List.getElem?_zipIdx, Option.map_map, Option.map_eq_some_iff]
  constructor
  · rintro ⟨⟨candidate, origin, dest⟩, together, rfl⟩
    obtain ⟨candidateAt, queriesAt⟩ := List.getElem?_zip_eq_some.mp together
    obtain ⟨originAt, destAt⟩ := List.getElem?_zip_eq_some.mp queriesAt
    exact ⟨Nat.zero_add i, originAt, destAt, candidate, candidateAt, rfl⟩
  · obtain ⟨index, origin, dest, token⟩ := r
    rintro ⟨rfl, originAt, destAt, candidate, candidateAt, rfl⟩
    have queriesAt : (originQueries.zip destQueries)[index]? = some (origin, dest) :=
      List.getElem?_zip_eq_some.mpr ⟨originAt, destAt⟩
    have together : (candidates.zip (originQueries.zip destQueries))[index]? = some (candidate, origin, dest) :=
      List.getElem?_zip_eq_some.mpr ⟨candidateAt, queriesAt⟩
    exact ⟨(candidate, origin, dest), together, by simp⟩

-- How many positions all three lists have.
def common (candidates : List BridgeToken) (originQueries destQueries : List Query) : Nat :=
  min candidates.length (min originQueries.length destQueries.length)

theorem exists_route {candidates : List BridgeToken} {originQueries destQueries : List Query} {i : Nat} {q : Query}
    (within : i < common candidates originQueries destQueries) (found : destQueries[i]? = some q) :
    ∃ r, (all candidates originQueries destQueries)[i]? = some r ∧ r.destQuery = q := by
  rw [common, Nat.lt_min, Nat.lt_min] at within
  have candidate : candidates[i]? = some candidates[i] := List.getElem?_eq_getElem within.1
  have origin : originQueries[i]? = some originQueries[i] := List.getElem?_eq_getElem within.2.1
  exact ⟨⟨i, originQueries[i], q, candidates[i].token⟩,
    getElem?_all.mpr ⟨rfl, origin, found, candidates[i], candidate, rfl⟩, rfl⟩

-- What stands at the position of the route in the three lists, and that nothing before it promises as much.
structure First (candidates : List BridgeToken) (originQueries destQueries : List Query) (most : Amount)
    (best : BestRoute) : Prop where
  within : best.index < common candidates originQueries destQueries
  originAt : originQueries[best.index]? = some best.originQuery
  destAt : destQueries[best.index]? = some best.destQuery
  candidateAt : ∃ candidate, candidates[best.index]? = some candidate ∧ best.bridgeToken = candidate.token
  promised : best.destQuery.minAmountOut = most
  earliest : ∀ (j : Nat) q, j < best.index → destQueries[j]? = some q → q.minAmountOut ≠ most

theorem first_select {candidates : List BridgeToken} {originQueries destQueries : List Query} {most : Amount}
    {best : BestRoute} (chosen : select candidates originQueries destQueries = (most, some best)) :
    First candidates originQueries destQueries most best := by
  have lead := leads_select candidates originQueries destQueries
  rw [chosen] at lead
  obtain ⟨before, after, parted, promised, _, lower, _⟩ := lead
  have place : (all candidates originQueries destQueries)[before.length]? = some best := by simp [parted]
  obtain ⟨index, originAt, destAt, candidate, candidateAt, token⟩ := getElem?_all.mp place
  obtain ⟨originBound, _⟩ := List.getElem?_eq_some_iff.mp originAt
  obtain ⟨destBound, _⟩ := List.getElem?_eq_some_iff.mp destAt
  obtain ⟨candidateBound, _⟩ := List.getElem?_eq_some_iff.mp candidateAt
  have within : before.length < common candidates originQueries destQueries :=
    Nat.lt_min.mpr ⟨candidateBound, Nat.lt_min.mpr ⟨originBound, destBound⟩⟩
  rw [← index] at originAt destAt candidateAt
  refine ⟨index ▸ within, originAt, destAt, ⟨candidate, candidateAt, token⟩, promised, fun j q early found => ?_⟩
  rw [index] at early
  obtain ⟨r, at_, rfl⟩ := exists_route (Nat.lt_trans early within) found
  rw [parted, List.getElem?_append_left early] at at_
  exact Fin.ne_of_lt (lower r (List.mem_of_getElem? at_))

theorem common_length {candidates : List BridgeToken} {originQueries destQueries : List Query}
    (origins : originQueries.length = candidates.length) (dests : destQueries.length = candidates.length) :
    common candidates originQueries destQueries = destQueries.length := by
  rw [common, origins, dests, Nat.min_self, Nat.min_self]

-- Among lists of one length every destination query belongs to a route.
theorem exists_route_aligned {candidates : List BridgeToken} {originQueries destQueries : List Query} {i : Nat} {q : Query}
    (origins : originQueries.length = candidates.length) (dests : destQueries.length = candidates.length)
    (found : destQueries[i]? = some q) :
    ∃ r, (all candidates originQueries destQueries)[i]? = some r ∧ r.destQuery = q := by
  obtain ⟨bound, _⟩ := List.getElem?_eq_some_iff.mp found
  exact exists_route (common_length origins dests ▸ bound) found

-- The position holds the first of the greatest amounts, and that is more than nothing.
structure Wins (destQueries : List Query) (i : Nat) (most : Amount) : Prop where
  promised : ∃ q, destQueries[i]? = some q ∧ q.minAmountOut = most
  positive : Amount.zero < most
  greatest : ∀ (j : Nat) q, destQueries[j]? = some q → q.minAmountOut ≤ most
  earliest : ∀ (j : Nat) q, j < i → destQueries[j]? = some q → q.minAmountOut < most

theorem Wins.unique {destQueries : List Query} {i j : Nat} {most other : Amount}
    (one : Wins destQueries i most) (two : Wins destQueries j other) : i = j := by
  obtain ⟨p, atOne, rfl⟩ := one.promised
  obtain ⟨q, atTwo, rfl⟩ := two.promised
  rcases Nat.lt_trichotomy i j with before | same | after
  · exact absurd (two.earliest i p before atOne) (Fin.not_lt.mpr (one.greatest j q atTwo))
  · exact same
  · exact absurd (one.earliest j q after atTwo) (Fin.not_lt.mpr (two.greatest i p atOne))

theorem select_some {candidates : List BridgeToken} {originQueries destQueries : List Query} {most : Amount}
    {best : BestRoute} (origins : originQueries.length = candidates.length)
    (dests : destQueries.length = candidates.length)
    (chosen : select candidates originQueries destQueries = (most, some best)) :
    (all candidates originQueries destQueries)[best.index]? = some best ∧ Wins destQueries best.index most := by
  have lead := leads_select candidates originQueries destQueries
  have first := first_select chosen
  rw [chosen] at lead
  have place := getElem?_all.mpr ⟨rfl, first.originAt, first.destAt, first.candidateAt⟩
  have greatest : ∀ (j : Nat) q, destQueries[j]? = some q → q.minAmountOut ≤ most := by
    intro j q found
    obtain ⟨r, at_, rfl⟩ := exists_route_aligned origins dests found
    exact lead.le r (List.mem_of_getElem? at_)
  obtain ⟨_, _, _, _, positive, _⟩ := lead
  refine ⟨place, ⟨best.destQuery, first.destAt, first.promised⟩, positive, greatest, fun j q early found => ?_⟩
  have differs := first.earliest j q early found
  exact Nat.lt_of_le_of_ne (greatest j q found) fun same => differs (Fin.ext same)

theorem select_none {candidates : List BridgeToken} {originQueries destQueries : List Query} {most : Amount}
    (origins : originQueries.length = candidates.length) (dests : destQueries.length = candidates.length)
    (chosen : select candidates originQueries destQueries = (most, none)) :
    most = .zero ∧ ∀ q ∈ destQueries, q.minAmountOut = .zero := by
  have lead := leads_select candidates originQueries destQueries
  rw [chosen] at lead
  refine ⟨lead.1, fun q member => ?_⟩
  obtain ⟨i, found⟩ := List.mem_iff_getElem?.mp member
  obtain ⟨r, at_, rfl⟩ := exists_route_aligned origins dests found
  exact lead.2 r (List.mem_of_getElem? at_)

-- Along the destination queries: one that promises no more than the best so far is passed over, and at a better one
-- without a partner in both other lists the walk ends.
def walk (candidates : List BridgeToken) (originQueries : List Query) (i : Nat) (best : Amount × Option BestRoute) :
    List Query → Amount × Option BestRoute
  | [] => best
  | q :: rest =>
    if q.minAmountOut ≤ best.1 then walk candidates originQueries (i + 1) best rest
    else match originQueries[i]?, candidates[i]? with
      | some origin, some candidate =>
        walk candidates originQueries (i + 1) (q.minAmountOut, some ⟨i, origin, q, candidate.token⟩) rest
      | _, _ => best

-- The routes over what is left of the lists, counted from a position.
def allFrom (i : Nat) (candidates : List BridgeToken) (originQueries destQueries : List Query) : List BestRoute :=
  ((candidates.zip (originQueries.zip destQueries)).zipIdx i).map fun ((candidate, origin, dest), index) =>
    ⟨index, origin, dest, candidate.token⟩

variable {candidates : List BridgeToken} {originQueries destQueries : List Query} {i : Nat}

theorem allFrom_partners {origin : Query} {candidate : BridgeToken} (originAt : originQueries[i]? = some origin)
    (candidateAt : candidates[i]? = some candidate) (q : Query) (rest : List Query) :
    allFrom i (candidates.drop i) (originQueries.drop i) (q :: rest) =
      ⟨i, origin, q, candidate.token⟩ :: allFrom (i + 1) (candidates.drop (i + 1)) (originQueries.drop (i + 1)) rest := by
  obtain ⟨candidateBound, rfl⟩ := List.getElem?_eq_some_iff.mp candidateAt
  obtain ⟨originBound, rfl⟩ := List.getElem?_eq_some_iff.mp originAt
  rw [List.drop_eq_getElem_cons candidateBound, List.drop_eq_getElem_cons originBound]
  rfl

-- No partner here, and so none further on.
theorem allFrom_alone {j : Nat} (later : i ≤ j) (alone : originQueries[i]? = none ∨ candidates[i]? = none)
    (rest : List Query) : allFrom j (candidates.drop j) (originQueries.drop j) rest = [] := by
  rcases alone with short | short
  · rw [List.drop_eq_nil_of_le (Nat.le_trans (List.getElem?_eq_none_iff.mp short) later)]
    simp [allFrom]
  · rw [List.drop_eq_nil_of_le (Nat.le_trans (List.getElem?_eq_none_iff.mp short) later)]
    simp [allFrom]

-- By induction on the queries still ahead, with the best so far as it comes.
theorem walk_eq_foldl (candidates : List BridgeToken) (originQueries : List Query) (i : Nat)
    (best : Amount × Option BestRoute) (ahead : List Query) : walk candidates originQueries i best ahead =
      (allFrom i (candidates.drop i) (originQueries.drop i) ahead).foldl better best := by
  induction ahead generalizing i best with
  | nil => simp [walk, allFrom]
  | cons q rest ih =>
    have further (alone : originQueries[i]? = none ∨ candidates[i]? = none) :
        walk candidates originQueries (i + 1) best rest = best := by
      rw [ih, allFrom_alone (Nat.le_succ i) alone, List.foldl_nil]
    rw [walk]
    cases originAt : originQueries[i]? with
    | none =>
      rw [further (.inl originAt), allFrom_alone (Nat.le_refl i) (.inl originAt), List.foldl_nil, ite_self]
    | some origin =>
      cases candidateAt : candidates[i]? with
      | none =>
        rw [further (.inr candidateAt), allFrom_alone (Nat.le_refl i) (.inr candidateAt), List.foldl_nil, ite_self]
      | some candidate =>
        rw [allFrom_partners originAt candidateAt, List.foldl_cons, better]
        by_cases higher : best.1 < q.minAmountOut
        · rw [if_neg (Fin.not_le.mpr higher), if_pos higher]
          exact ih _ _
        · rw [if_pos (Fin.not_lt.mp higher), if_neg higher]
          exact ih _ _

theorem walk_eq_select (candidates : List BridgeToken) (originQueries destQueries : List Query) :
    walk candidates originQueries 0 (.zero, none) destQueries = select candidates originQueries destQueries :=
  walk_eq_foldl candidates originQueries 0 (.zero, none) destQueries

theorem foldl_better_fst (routes : List BestRoute) (best : Amount × Option BestRoute) :
    (routes.foldl better best).1 = (routes.map fun r => r.destQuery.minAmountOut).foldl max best.1 := by
  induction routes generalizing best with
  | nil => rfl
  | cons next rest ih =>
    have step : (better best next).1 = max best.1 next.destQuery.minAmountOut := by
      unfold better
      split
      · rename_i higher
        exact (max_eq_right_of_lt higher).symm
      · rename_i lower
        exact (max_eq_left (Fin.not_lt.mp lower)).symm
    rw [List.foldl_cons, ih, step, List.map_cons, List.foldl_cons]

theorem map_dest_zip (candidates : List BridgeToken) (originQueries destQueries : List Query) :
    (candidates.zip (originQueries.zip destQueries)).map (fun t => t.2.2) =
      destQueries.take (common candidates originQueries destQueries) := by
  induction destQueries generalizing candidates originQueries with
  | nil => simp
  | cons q rest ih =>
    cases candidates with
    | nil => simp [common]
    | cons candidate candidates =>
      cases originQueries with
      | nil => simp [common]
      | cons origin originQueries =>
        have count : common (candidate :: candidates) (origin :: originQueries) (q :: rest) =
            common candidates originQueries rest + 1 := by simp [common]
        rw [List.zip_cons_cons, List.zip_cons_cons, List.map_cons, ih, count, List.take_succ_cons]

theorem map_dest_all (candidates : List BridgeToken) (originQueries destQueries : List Query) :
    (all candidates originQueries destQueries).map destQuery =
      destQueries.take (common candidates originQueries destQueries) := by
  have together := List.zipIdx_map_fst 0 (candidates.zip (originQueries.zip destQueries))
  rw [← map_dest_zip, ← together, List.map_map, all, List.map_map]
  rfl

theorem select_fst (candidates : List BridgeToken) (originQueries destQueries : List Query) :
    (select candidates originQueries destQueries).1 =
      ((destQueries.take (common candidates originQueries destQueries)).map Query.minAmountOut).foldl max .zero := by
  rw [select, foldl_better_fst, ← map_dest_all, List.map_map]
  rfl

theorem select_snd_eq_none (candidates : List BridgeToken) (originQueries destQueries : List Query) :
    (select candidates originQueries destQueries).2 = none ↔
      (select candidates originQueries destQueries).1 = .zero := by
  have lead := leads_select candidates originQueries destQueries
  cases found : select candidates originQueries destQueries with
  | mk most route =>
    rw [found] at lead
    cases route with
    | none => simp [lead.1]
    | some best =>
      obtain ⟨_, _, _, _, positive, _⟩ := lead
      simp [(Fin.ne_of_lt positive).symm]

theorem zip_take (candidates : List BridgeToken) (originQueries destQueries : List Query) :
    let n := common candidates originQueries destQueries
    (candidates.take n).zip ((originQueries.take n).zip (destQueries.take n)) =
      candidates.zip (originQueries.zip destQueries) := by
  intro n
  have whole : (candidates.zip (originQueries.zip destQueries)).length ≤ n := by
    rw [List.length_zip, List.length_zip]
    exact Nat.le_refl _
  rw [← List.take_of_length_le whole]
  simp only [List.zip, List.take_zipWith]

theorem select_congr {otherCandidates : List BridgeToken} {otherOrigins otherDests : List Query}
    (same : otherCandidates.zip (otherOrigins.zip otherDests) = candidates.zip (originQueries.zip destQueries)) :
    select otherCandidates otherOrigins otherDests = select candidates originQueries destQueries := by
  rw [select, select, all, all, same]

theorem select_perm {otherCandidates : List BridgeToken} {otherOrigins otherDests : List Query}
    (permuted : (otherCandidates.zip (otherOrigins.zip otherDests)).Perm
      (candidates.zip (originQueries.zip destQueries))) :
    (select otherCandidates otherOrigins otherDests).1 = (select candidates originQueries destQueries).1 := by
  have amounts := (permuted.map fun t => t.2.2).map Query.minAmountOut
  rw [map_dest_zip, map_dest_zip] at amounts
  rw [select_fst, select_fst]
  exact amounts.foldl_eq' (fun a _ b _ most => max_right_comm most a b) .zero

-- The amount is the greatest of the common positions and the route the first with that amount; what stands behind these
-- positions changes nothing, and their order changes the amount as little.
theorem select_firstGreatest (candidates : List BridgeToken) (originQueries destQueries : List Query) :
    let n := common candidates originQueries destQueries
    let found := select candidates originQueries destQueries
    walk candidates originQueries 0 (.zero, none) destQueries = found ∧
    found.1 = ((destQueries.take n).map Query.minAmountOut).foldl max .zero ∧
    (found.2 = none ↔ found.1 = .zero) ∧
    (∀ best, found.2 = some best → First candidates originQueries destQueries found.1 best) ∧
    (∀ otherCandidates otherOrigins otherDests, common otherCandidates otherOrigins otherDests = n →
      otherCandidates.take n = candidates.take n → otherOrigins.take n = originQueries.take n →
      otherDests.take n = destQueries.take n → select otherCandidates otherOrigins otherDests = found) ∧
    ∀ otherCandidates otherOrigins otherDests,
      (otherCandidates.zip (otherOrigins.zip otherDests)).Perm (candidates.zip (originQueries.zip destQueries)) →
      (select otherCandidates otherOrigins otherDests).1 = found.1 := by
  intro n found
  refine ⟨walk_eq_select _ _ _, select_fst _ _ _, select_snd_eq_none _ _ _, ?_, ?_, fun _ _ _ => select_perm⟩
  · intro best chosen
    exact first_select (Prod.ext rfl chosen)
  · intro otherCandidates otherOrigins otherDests count sameCandidates sameOrigins sameDests
    apply select_congr
    rw [← zip_take otherCandidates, count, sameCandidates, sameOrigins, sameDests]
    exact zip_take candidates originQueries destQueries

end RouteQuote.BestRoute
