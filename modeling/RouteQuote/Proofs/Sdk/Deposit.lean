import Mathlib.Algebra.BigOperators.Group.Finset.Basic
import Mathlib.Algebra.GroupWithZero.Nat
import RouteQuote.Proofs.Sdk.Withdrawal

namespace RouteQuote

namespace Keyed

-- Keys that the table does not have count for nothing; no key is counted twice.
theorem sum_get? [DecidableEq κ] {rank : κ → Nat} {table : List (κ × α)} {keys : List κ} (ordered : Ordered rank table)
    (distinct : keys.Nodup) (size : α → Nat) :
    (keys.map fun key => ((get? key table).map size).getD 0).sum =
      ((table.filter fun pair => pair.1 ∈ keys).map fun pair => size pair.2).sum := by
  let held := table.filter fun pair => pair.1 ∈ keys
  have heldDistinct : (held.map Prod.fst).Nodup := (nodup_keys ordered).sublist (List.filter_sublist.map Prod.fst)
  have within : (held.map Prod.fst).toFinset ⊆ keys.toFinset := by
    intro key member
    simp only [List.mem_toFinset, List.mem_map] at member ⊢
    obtain ⟨pair, inHeld, rfl⟩ := member
    simpa using (List.mem_filter.mp inHeld).2
  have nothing : ∀ key ∈ keys.toFinset, key ∉ (held.map Prod.fst).toFinset → ((get? key table).map size).getD 0 = 0 := by
    intro key inKeys notHeld
    cases found : get? key table with
    | none => rfl
    | some value =>
      have there : (key, value) ∈ held := List.mem_filter.mpr ⟨mem_of_get? found, by simpa using inKeys⟩
      exact absurd (List.mem_toFinset.mpr (List.mem_map_of_mem there)) notHeld
  calc (keys.map fun key => ((get? key table).map size).getD 0).sum
      = ∑ key ∈ keys.toFinset, ((get? key table).map size).getD 0 := (List.sum_toFinset _ distinct).symm
    _ = ∑ key ∈ (held.map Prod.fst).toFinset, ((get? key table).map size).getD 0 :=
        (Finset.sum_subset within nothing).symm
    _ = ((held.map Prod.fst).map fun key => ((get? key table).map size).getD 0).sum := List.sum_toFinset _ heldDistinct
    _ = (held.map fun pair => size pair.2).sum := by
        rw [List.map_map]
        refine congrArg List.sum (List.map_congr_left fun pair member => ?_)
        have found := get?_of_mem ordered (List.mem_filter.mp member).1
        simp [found]

end Keyed

-- The map that pairs make up when they are put in one after the other.
def amountTable (amounts : List (Address × Amount)) : List (Address × Amount) :=
  Keyed.ofList (fun a : Address => a.value.val) amounts

-- What the map holds for a token; a missing entry counts as zero.
def heldAmount (amounts : List (Address × Amount)) (token : Address) : Amount :=
  (Keyed.get? token (amountTable amounts)).getD .zero

variable {pool : List PoolToken} {amounts : List (Address × Amount)} {token : Address}

theorem amountOf_eq (amounts : List (Address × Amount)) (token : Address) :
    amountOf amounts token = heldAmount amounts token := by
  unfold heldAmount amountTable
  rw [Keyed.get?_ofList value_injective]
  rfl

theorem alignAmounts_eq (pool : List PoolToken) (amounts : List (Address × Amount)) :
    alignAmounts pool amounts = pool.map fun t => heldAmount amounts t.token :=
  List.map_congr_left fun t _ => amountOf_eq amounts t.token

theorem alignAmounts_congr {one two : List (Address × Amount)}
    (alike : ∀ t ∈ pool, heldAmount one t.token = heldAmount two t.token) :
    alignAmounts pool one = alignAmounts pool two := by
  rw [alignAmounts_eq, alignAmounts_eq]
  exact List.map_congr_left alike

theorem all_zero_iff : (alignAmounts pool amounts).all (· == .zero) = true ↔
    ∀ t ∈ pool, heldAmount amounts t.token = .zero := by
  rw [alignAmounts_eq]
  simp

-- One entry for each token of the pool, at its place; of what the map holds for the pool's tokens nothing is lost.
structure PoolOrdered (pool : List PoolToken) (amounts : List (Address × Amount)) (sent : List Amount) : Prop where
  length : sent.length = pool.length
  entries : ∀ (i : Nat) t, pool[i]? = some t → sent[i]? = some (heldAmount amounts t.token)
  conserved : (pool.map PoolToken.token).Nodup → (sent.map Fin.val).sum =
    (((amountTable amounts).filter fun pair => pair.1 ∈ pool.map PoolToken.token).map fun pair => pair.2.val).sum

theorem poolOrdered_alignAmounts (pool : List PoolToken) (amounts : List (Address × Amount)) :
    PoolOrdered pool amounts (alignAmounts pool amounts) where
  length := List.length_map _
  entries i t at_ := by
    rw [alignAmounts_eq, List.getElem?_map, at_]
    rfl
  conserved distinct := by
    have ordered : Keyed.Ordered (fun a : Address => a.value.val) (amountTable amounts) := Keyed.ordered_ofList amounts
    rw [← Keyed.sum_get? ordered distinct Fin.val, alignAmounts_eq, List.map_map, List.map_map]
    refine congrArg List.sum (List.map_congr_left fun t _ => ?_)
    simp only [Function.comp_apply, heldAmount]
    cases Keyed.get? t.token (amountTable amounts) <;> rfl

namespace Sdk

variable {sdk : Sdk} {chain : ChainId} {router : Router} {pool : Address} {amounts : List (Address × Amount)}
  {tokens : List PoolToken} {value : Amount} {backend : Backend σ} {s between after : σ}

theorem addLiquidity_nothing (found : sdk.router chain = .ok router)
    (tokensSaid : backend.answer router (.poolTokens pool) s = (.ok tokens, between))
    (nothing : ∀ t ∈ tokens, heldAmount amounts t.token = .zero) :
    (sdk.addLiquidity chain pool amounts).run backend s =
      ⟨.ok ⟨.zero, router.address⟩, [.asked router (.poolTokens pool)], between⟩ := by
  unfold addLiquidity
  rw [found]
  refine (Plan.run_answered tokensSaid).trans ?_
  dsimp only
  rw [if_pos (all_zero_iff.mpr nothing)]
  rfl

theorem addLiquidity_something (found : sdk.router chain = .ok router)
    (tokensSaid : backend.answer router (.poolTokens pool) s = (.ok tokens, between))
    (something : ∃ t ∈ tokens, heldAmount amounts t.token ≠ .zero)
    (valueSaid : backend.answer router (.addLiquidity pool (alignAmounts tokens amounts)) between = (.ok value, after)) :
    (sdk.addLiquidity chain pool amounts).run backend s = ⟨.ok ⟨value, router.address⟩,
      [.asked router (.poolTokens pool), .asked router (.addLiquidity pool (alignAmounts tokens amounts))], after⟩ := by
  have asks : ¬ (alignAmounts tokens amounts).all (· == .zero) = true := by
    intro zero
    obtain ⟨t, member, filled⟩ := something
    exact filled (all_zero_iff.mp zero t member)
  unfold addLiquidity
  rw [found]
  refine (Plan.run_answered tokensSaid).trans ?_
  dsimp only
  rw [if_neg asks, Plan.run_answered valueSaid]
  rfl

-- Tokens that the pool does not hold are not looked at.
theorem addLiquidity_congr {one two : List (Address × Amount)} (found : sdk.router chain = .ok router)
    (tokensSaid : backend.answer router (.poolTokens pool) s = (.ok tokens, between))
    (alike : ∀ t ∈ tokens, heldAmount one t.token = heldAmount two t.token) :
    (sdk.addLiquidity chain pool one).run backend s = (sdk.addLiquidity chain pool two).run backend s := by
  unfold addLiquidity
  rw [found]
  refine (Plan.run_answered tokensSaid).trans (.trans ?_ (Plan.run_answered tokensSaid).symm)
  rw [alignAmounts_congr alike]

theorem addLiquidity_aligned (found : sdk.router chain = .ok router)
    (tokensSaid : backend.answer router (.poolTokens pool) s = (.ok tokens, between)) :
    (∀ amounts, (∃ t ∈ tokens, heldAmount amounts t.token ≠ .zero) → ∃ sent, PoolOrdered tokens amounts sent ∧
      ∀ value after, backend.answer router (.addLiquidity pool sent) between = (.ok value, after) →
        (sdk.addLiquidity chain pool amounts).run backend s = ⟨.ok ⟨value, router.address⟩,
          [.asked router (.poolTokens pool), .asked router (.addLiquidity pool sent)], after⟩) ∧
    (∀ amounts, (∀ t ∈ tokens, heldAmount amounts t.token = .zero) →
      (sdk.addLiquidity chain pool amounts).run backend s =
        ⟨.ok ⟨.zero, router.address⟩, [.asked router (.poolTokens pool)], between⟩) ∧
    ∀ one two, (∀ t ∈ tokens, heldAmount one t.token = heldAmount two t.token) →
      (sdk.addLiquidity chain pool one).run backend s = (sdk.addLiquidity chain pool two).run backend s := by
  refine ⟨fun amounts something => ?_, fun amounts nothing => ?_, fun one two alike => ?_⟩
  · exact ⟨alignAmounts tokens amounts, poolOrdered_alignAmounts tokens amounts,
      fun value after said => addLiquidity_something found tokensSaid something said⟩
  · exact addLiquidity_nothing found tokensSaid nothing
  · exact addLiquidity_congr found tokensSaid alike

def threeTokens : Router.Fixed where
  poolTokens := [{ token := .ofNat 4 }, { token := .ofNat 5 }, { token := .ofNat 6 }]
  addLiquidityOut := .ofNat 77

-- The ninth token is not in the pool, and the amount for the sixth is replaced.
def mixedAmounts : List (Address × Amount) :=
  [(.ofNat 9, .ofNat 99), (.ofNat 6, .ofNat 1), (.ofNat 4, .ofNat 10), (.ofNat 6, .ofNat 30), (.ofNat 5, .zero)]

theorem addLiquidity_aligned_threeTokens :
    let sdk : Sdk := ⟨.twoChains, 600⟩
    let router : Router := ⟨0, 1, .ofNat 0x1A⟩
    let links : List Link := [.fixed threeTokens]
    sdk.router 1 = .ok router ∧
    (Link.backend 1000).answer router (.poolTokens .zero) links = (.ok threeTokens.poolTokens, links) ∧
    (sdk.addLiquidity 1 .zero mixedAmounts).run (Link.backend 1000) links = ⟨.ok ⟨77, router.address⟩,
      [.asked router (.poolTokens .zero), .asked router (.addLiquidity .zero [10, 0, 30])], links⟩ ∧
    (sdk.addLiquidity 1 .zero [(.ofNat 9, 99), (.ofNat 5, 0)]).run (Link.backend 1000) links =
      ⟨.ok ⟨.zero, router.address⟩, [.asked router (.poolTokens .zero)], links⟩ ∧
    (sdk.addLiquidity 1 .zero mixedAmounts).run (Link.backend 1000) links =
      (sdk.addLiquidity 1 .zero [(.ofNat 6, 30), (.ofNat 4, 10)]).run (Link.backend 1000) links := by
  intro sdk router links
  have found : sdk.router 1 = .ok router := rfl
  have tokensSaid : (Link.backend 1000).answer router (.poolTokens .zero) links = (.ok threeTokens.poolTokens, links) := rfl
  obtain ⟨something, nothing, alike⟩ := addLiquidity_aligned found tokensSaid
  refine ⟨found, tokensSaid, ?_, nothing _ (by decide +kernel), alike _ _ (by decide +kernel)⟩
  obtain ⟨sent, ordered, answered⟩ := something mixedAmounts (by decide +kernel)
  obtain ⟨first, second, third, rfl⟩ := List.length_eq_three.mp ordered.length
  have ten : first = 10 := (Option.some.inj (ordered.entries 0 _ rfl)).trans (by decide +kernel)
  have zero : second = 0 := (Option.some.inj (ordered.entries 1 _ rfl)).trans (by decide +kernel)
  have thirty : third = 30 := (Option.some.inj (ordered.entries 2 _ rfl)).trans (by decide +kernel)
  rw [ten, zero, thirty] at answered
  exact answered 77 links rfl

end Sdk

end RouteQuote
