import RouteQuote.Proofs.Address.Digits
import RouteQuote.Proofs.Chain.Registry
import RouteQuote.Proofs.Keyed
import RouteQuote.Proofs.Router.Exchange
import RouteQuote.Router.Script
import RouteQuote.Sdk.Operation

namespace RouteQuote

-- No later position of the pool holds the token.
structure LastAt (pool : List PoolToken) (token : Address) (i : Nat) : Prop where
  held : ∃ t, pool[i]? = some t ∧ t.token = token
  last : ∀ (j : Nat) t, i < j → pool[j]? = some t → t.token ≠ token

variable {pool : List PoolToken} {token : Address} {amounts : List Amount} {i : Nat}

theorem poolTokenIndex_last (last : LastAt pool token i) : poolTokenIndex pool token = i := by
  obtain ⟨t, at_, rfl⟩ := last.held
  obtain ⟨bound, here⟩ := List.getElem?_eq_some_iff.mp at_
  have found : pool.reverse.findIdx? (·.token == t.token) = some (pool.length - 1 - i) := by
    rw [List.findIdx?_eq_some_iff_getElem]
    refine ⟨by rw [List.length_reverse]; omega, ?_, fun j early => ?_⟩
    · have place : pool.length - 1 - (pool.length - 1 - i) = i := by omega
      simp only [List.getElem_reverse, place, here, BEq.rfl]
    · have later := last.last (pool.length - 1 - j) pool[pool.length - 1 - j] (by omega)
        (List.getElem?_eq_getElem (by omega))
      simpa only [List.getElem_reverse, beq_iff_eq] using later
  rw [poolTokenIndex, found]
  simp only
  omega

-- The tokens in the order of the pool, each with its amount and its position.
def positioned (pool : List PoolToken) (amounts : List Amount) : List (Address × IndexedAmount) :=
  (pool.zip amounts).zipIdx.map fun ((t, value), index) => (t.token, ⟨value, index⟩)

theorem amountsByToken_eq (pool : List PoolToken) (amounts : List Amount) :
    amountsByToken pool amounts = Keyed.ofList (fun a : Address => a.value.val) (positioned pool amounts) := rfl

theorem getElem?_positioned {entry : IndexedAmount} : (positioned pool amounts)[i]? = some (token, entry) ↔
    entry.index = i ∧ (∃ t, pool[i]? = some t ∧ t.token = token) ∧ amounts[i]? = some entry.value := by
  rw [positioned, List.getElem?_map, List.getElem?_zipIdx, Option.map_map, Option.map_eq_some_iff]
  constructor
  · rintro ⟨⟨t, value⟩, together, same⟩
    obtain ⟨tokenAt, amountAt⟩ := List.getElem?_zip_eq_some.mp together
    cases same
    exact ⟨Nat.zero_add i, ⟨t, tokenAt, rfl⟩, amountAt⟩
  · obtain ⟨value, index⟩ := entry
    rintro ⟨rfl, ⟨t, tokenAt, rfl⟩, amountAt⟩
    exact ⟨(t, value), List.getElem?_zip_eq_some.mpr ⟨tokenAt, amountAt⟩, by simp⟩

theorem map_token_positioned (same : amounts.length = pool.length) :
    (positioned pool amounts).map Prod.fst = pool.map PoolToken.token := by
  have fronts : (pool.zip amounts).map Prod.fst = pool := List.map_fst_zip (by omega)
  calc (positioned pool amounts).map Prod.fst
      = (((pool.zip amounts).zipIdx.map Prod.fst).map Prod.fst).map PoolToken.token := by
        rw [positioned, List.map_map, List.map_map, List.map_map]
        rfl
    _ = pool.map PoolToken.token := by rw [List.zipIdx_map_fst, fronts]

theorem map_value_positioned (same : amounts.length = pool.length) :
    (positioned pool amounts).map (fun entry => entry.2.value) = amounts := by
  calc (positioned pool amounts).map (fun entry => entry.2.value)
      = ((pool.zip amounts).zipIdx.map Prod.fst).map Prod.snd := by
        rw [positioned, List.map_map, List.map_map]
        rfl
    _ = amounts := by rw [List.zipIdx_map_fst, List.map_snd_zip (by omega)]

theorem value_injective : Function.Injective fun a : Address => a.value.val := by
  rintro ⟨a⟩ ⟨b⟩ same
  exact congrArg Address.mk (Fin.ext same)

-- Of the positions that hold a token the table keeps the last, as the search from the end does.
theorem lastAt_entry (same : amounts.length = pool.length) {entry : IndexedAmount}
    (member : (token, entry) ∈ amountsByToken pool amounts) :
    LastAt pool token entry.index ∧ amounts[entry.index]? = some entry.value := by
  rw [amountsByToken_eq] at member
  have found : Keyed.get? token (positioned pool amounts).reverse = some entry := by
    rw [← Keyed.get?_ofList value_injective]
    exact Keyed.get?_of_mem (Keyed.ordered_ofList _) member
  obtain ⟨⟨known, kept⟩, at_, (rfl : kept = entry)⟩ := Option.map_eq_some_iff.mp found
  obtain ⟨asked, later, before, parted, others⟩ := List.find?_eq_some_iff_append.mp at_
  obtain rfl : known = token := by simpa using asked
  have whole : positioned pool amounts = before.reverse ++ (known, kept) :: later.reverse := by
    rw [← List.reverse_reverse (positioned pool amounts), parted]
    simp
  have place : (positioned pool amounts)[before.length]? = some (known, kept) := by simp [whole]
  obtain ⟨index, held, amountAt⟩ := getElem?_positioned.mp place
  rw [← index] at held amountAt
  refine ⟨⟨held, fun j t behind tokenAt again => ?_⟩, amountAt⟩
  obtain ⟨bound, _⟩ := List.getElem?_eq_some_iff.mp tokenAt
  have there : (positioned pool amounts)[j]? = some (known, ⟨amounts[j], j⟩) :=
    getElem?_positioned.mpr ⟨rfl, ⟨t, tokenAt, again⟩, List.getElem?_eq_getElem (by omega)⟩
  have beyond : j - before.reverse.length = j - before.length - 1 + 1 := by
    rw [List.length_reverse]
    omega
  rw [whole, List.getElem?_append_right (by simp; omega), beyond, List.getElem?_cons_succ] at there
  have differs := others _ (List.mem_reverse.mp (List.mem_of_getElem? there))
  simp at differs

-- One entry for each token there is, in the order of the addresses' bytes, with the amount at the token's position.
structure Tabulates (pool : List PoolToken) (amounts : List Amount) (table : List (Address × IndexedAmount)) : Prop where
  ascending : table.Pairwise fun one next => one.1.bytes < next.1.bytes
  keys : ∀ token, token ∈ table.map Prod.fst ↔ token ∈ pool.map PoolToken.token
  entries : ∀ token entry, (token, entry) ∈ table →
    entry.index = poolTokenIndex pool token ∧ amounts[entry.index]? = some entry.value
  kept : (pool.map PoolToken.token).Nodup → (table.map fun entry => entry.2.value).Perm amounts

theorem tabulates_amountsByToken (same : amounts.length = pool.length) :
    Tabulates pool amounts (amountsByToken pool amounts) where
  ascending := by
    have ordered : Keyed.Ordered (fun a : Address => a.value.val) (amountsByToken pool amounts) := by
      rw [amountsByToken_eq]
      exact Keyed.ordered_ofList _
    exact ordered.imp Address.bytes_lt.mpr
  keys token := by
    rw [amountsByToken_eq, ← map_token_positioned same]
    exact Keyed.keys_ofList value_injective token _
  entries token entry member := by
    obtain ⟨last, amountAt⟩ := lastAt_entry same member
    exact ⟨(poolTokenIndex_last last).symm, amountAt⟩
  kept distinct := by
    rw [← map_token_positioned same, List.Nodup, List.pairwise_map] at distinct
    have apart := distinct.imp fun {one next} differs => value_injective.ne differs
    have all : (amountsByToken pool amounts).Perm (positioned pool amounts) := by
      rw [amountsByToken_eq]
      exact Keyed.perm_ofList apart
    have values := all.map fun entry => entry.2.value
    rwa [map_value_positioned same] at values

namespace Sdk

variable {sdk : Sdk} {chain : ChainId} {router : Router} {pool token : Address} {amount : Amount} {amounts : List Amount}
  {tokens : List PoolToken} {backend : Backend σ} {s between after : σ}

theorem removeLiquidity_result (found : sdk.router chain = .ok router)
    (amountsSaid : backend.answer router (.removeLiquidity pool amount) s = (.ok amounts, between))
    (tokensSaid : backend.answer router (.poolTokens pool) between = (.ok tokens, after)) :
    ((sdk.removeLiquidity chain pool amount).run backend s).result =
      if amounts.length = tokens.length then .ok ⟨amountsByToken tokens amounts, router.address⟩
      else .error (.contract chain "calculateRemoveLiquidity" (.countMismatch amounts.length tokens.length)) := by
  unfold removeLiquidity
  rw [found]
  refine (Plan.result_read amountsSaid).trans ((Plan.result_read tokensSaid).trans ?_)
  rw [ensureCount]
  split
  · rfl
  · rfl

-- What is asked about one token: what the pool holds, and then about its position, if the contract can be told it.
theorem removeLiquidityOne_calls (found : sdk.router chain = .ok router)
    (tokensSaid : backend.answer router (.poolTokens pool) s = (.ok tokens, after)) :
    ((sdk.removeLiquidityOne chain pool amount token).exchanges backend s).map Exchange.call =
      (router, .poolTokens pool) :: if poolTokenIndex tokens token < 256
        then [(router, .withdrawOne pool amount (UInt8.ofNat (poolTokenIndex tokens token)))] else [] := by
  unfold removeLiquidityOne
  rw [found]
  refine (congrArg (List.map Exchange.call) (Plan.exchanges_read tokensSaid)).trans ?_
  rw [List.map_cons]
  refine congrArg _ ?_
  dsimp only
  split
  · exact Plan.calls_read_last _
  · rfl

-- The counts decide between a refusal that names both and the table; whoever asks about one token of the table asks about
-- the position in it.
theorem removeLiquidity_positions (found : sdk.router chain = .ok router)
    (amountsSaid : backend.answer router (.removeLiquidity pool amount) s = (.ok amounts, between))
    (tokensSaid : backend.answer router (.poolTokens pool) between = (.ok tokens, after)) :
    let result := ((sdk.removeLiquidity chain pool amount).run backend s).result
    (result = .error (.contract chain "calculateRemoveLiquidity" (.countMismatch amounts.length tokens.length)) ↔
      amounts.length ≠ tokens.length) ∧
    (amounts.length = tokens.length → ∃ table, result = .ok ⟨table, router.address⟩ ∧ Tabulates tokens amounts table ∧
      ∀ token entry, (token, entry) ∈ table → ∀ {τ : Type} (other : Backend τ) (t later : τ) (burnt : Amount),
        other.answer router (.poolTokens pool) t = (.ok tokens, later) →
        ((sdk.removeLiquidityOne chain pool burnt token).exchanges other t).map Exchange.call =
          (router, .poolTokens pool) :: if entry.index < 256
            then [(router, .withdrawOne pool burnt (UInt8.ofNat entry.index))] else []) := by
  intro result
  have ended : result = _ := removeLiquidity_result found amountsSaid tokensSaid
  refine ⟨?_, fun same => ?_⟩
  · rw [ended]
    split
    · rename_i same
      simp [same]
    · rename_i differs
      simp [differs]
  · rw [if_pos same] at ended
    have tabulated := tabulates_amountsByToken same
    refine ⟨_, ended, tabulated, fun token entry member τ other t later burnt said => ?_⟩
    rw [(tabulated.entries token entry member).1]
    exact removeLiquidityOne_calls found said

-- The first token of the pool is its last one too.
def repeatedToken : Router.Fixed where
  poolTokens := [{ token := .ofNat 4 }, { token := .ofNat 5 }, { token := .ofNat 4 }]
  removeLiquidityOut := [.ofNat 7, .ofNat 8, .ofNat 9]

theorem removeLiquidity_positions_repeated :
    let sdk : Sdk := ⟨.twoChains, 600⟩
    let router : Router := ⟨0, 1, .ofNat 0x1A⟩
    let links : List Link := [.fixed repeatedToken]
    let table := [(Address.ofNat 4, IndexedAmount.mk (.ofNat 9) 2), (Address.ofNat 5, IndexedAmount.mk (.ofNat 8) 1)]
    sdk.router 1 = .ok router ∧
    (Link.backend 1000).answer router (.removeLiquidity .zero 10) links = (.ok repeatedToken.removeLiquidityOut, links) ∧
    (Link.backend 1000).answer router (.poolTokens .zero) links = (.ok repeatedToken.poolTokens, links) ∧
    ((sdk.removeLiquidity 1 .zero 10).run (Link.backend 1000) links).result = .ok ⟨table, router.address⟩ ∧
    Tabulates repeatedToken.poolTokens repeatedToken.removeLiquidityOut table ∧
    ((sdk.removeLiquidityOne 1 .zero 3 (.ofNat 4)).exchanges (Link.backend 1000) links).map Exchange.call =
      [(router, .poolTokens .zero), (router, .withdrawOne .zero 3 2)] := by
  intro sdk router links table
  have found : sdk.router 1 = .ok router := rfl
  have amountsSaid : (Link.backend 1000).answer router (.removeLiquidity .zero 10) links =
    (.ok repeatedToken.removeLiquidityOut, links) := rfl
  have tokensSaid :
      (Link.backend 1000).answer router (.poolTokens .zero) links = (.ok repeatedToken.poolTokens, links) := rfl
  have computed :
      ((sdk.removeLiquidity 1 .zero 10).run (Link.backend 1000) links).result = .ok ⟨table, router.address⟩ := rfl
  obtain ⟨-, answered⟩ := removeLiquidity_positions found amountsSaid tokensSaid
  obtain ⟨same, ended, tabulated, asked⟩ := answered rfl
  obtain rfl : same = table := by
    rw [computed] at ended
    cases ended
    rfl
  have inTable : (Address.ofNat 4, IndexedAmount.mk (.ofNat 9) 2) ∈ table := by simp [table]
  exact ⟨found, amountsSaid, tokensSaid, computed, tabulated,
    asked _ _ inTable (Link.backend 1000) links links 3 tokensSaid⟩

end Sdk

end RouteQuote

namespace RouteQuote

inductive StandsFor (pool : List PoolToken) (token : Address) : Nat → Prop where
  | held {i : Nat} (last : LastAt pool token i) : StandsFor pool token i
  | absent (nowhere : ∀ t ∈ pool, t.token ≠ token) : StandsFor pool token 0

variable {pool : List PoolToken} {token : Address} {i : Nat}

theorem poolTokenIndex_absent (nowhere : ∀ t ∈ pool, t.token ≠ token) : poolTokenIndex pool token = 0 := by
  have none : pool.reverse.findIdx? (·.token == token) = none := by
    rw [List.findIdx?_eq_none_iff]
    intro t member
    simpa using nowhere t (List.mem_reverse.mp member)
  rw [poolTokenIndex, none]

theorem StandsFor.eq (stands : StandsFor pool token i) : poolTokenIndex pool token = i := by
  cases stands with
  | held last => exact poolTokenIndex_last last
  | absent nowhere => exact poolTokenIndex_absent nowhere

theorem standsFor_poolTokenIndex (pool : List PoolToken) (token : Address) :
    StandsFor pool token (poolTokenIndex pool token) := by
  cases found : pool.reverse.findIdx? (·.token == token) with
  | none =>
    have nowhere : ∀ t ∈ pool, t.token ≠ token := by
      intro t member
      simpa using List.findIdx?_eq_none_iff.mp found t (List.mem_reverse.mpr member)
    rw [poolTokenIndex_absent nowhere]
    exact .absent nowhere
  | some fromEnd =>
    obtain ⟨bound, here, before⟩ := List.findIdx?_eq_some_iff_getElem.mp found
    rw [List.length_reverse] at bound
    rw [List.getElem_reverse, beq_iff_eq] at here
    have last : LastAt pool token (pool.length - 1 - fromEnd) := by
      refine ⟨⟨_, List.getElem?_eq_getElem (by omega), here⟩, fun j t later at_ same => ?_⟩
      obtain ⟨inside, rfl⟩ := List.getElem?_eq_some_iff.mp at_
      have place : pool.length - 1 - (pool.length - 1 - j) = j := by omega
      have earlier := before (pool.length - 1 - j) (by omega)
      simp only [List.getElem_reverse, place, beq_iff_eq] at earlier
      exact earlier same
    rw [poolTokenIndex_last last]
    exact .held last

namespace Sdk

variable {sdk : Sdk} {chain : ChainId} {router : Router} {pool token : Address} {amount value : Amount}
  {tokens : List PoolToken} {backend : Backend σ} {s between after : σ}

theorem removeLiquidityOne_answered (found : sdk.router chain = .ok router)
    (tokensSaid : backend.answer router (.poolTokens pool) s = (.ok tokens, between))
    (small : poolTokenIndex tokens token < 256)
    (valueSaid : backend.answer router (.withdrawOne pool amount (UInt8.ofNat (poolTokenIndex tokens token))) between =
      (.ok value, after)) :
    (sdk.removeLiquidityOne chain pool amount token).run backend s =
      ⟨.ok ⟨⟨value, poolTokenIndex tokens token⟩, router.address⟩, [.asked router (.poolTokens pool),
        .asked router (.withdrawOne pool amount (UInt8.ofNat (poolTokenIndex tokens token)))], after⟩ := by
  unfold removeLiquidityOne
  rw [found]
  refine (Plan.run_answered tokensSaid).trans ?_
  dsimp only
  rw [if_pos small, Plan.run_answered valueSaid]
  rfl

theorem removeLiquidityOne_beyond (found : sdk.router chain = .ok router)
    (tokensSaid : backend.answer router (.poolTokens pool) s = (.ok tokens, between))
    (great : ¬ poolTokenIndex tokens token < 256) :
    (sdk.removeLiquidityOne chain pool amount token).run backend s =
      ⟨.error (.validation "token" (.poolIndex (poolTokenIndex tokens token))), [.asked router (.poolTokens pool)],
        between⟩ := by
  unfold removeLiquidityOne
  rw [found]
  refine (Plan.run_answered tokensSaid).trans ?_
  dsimp only
  rw [if_neg great]
  rfl

theorem removeLiquidityOne_plain : (sdk.removeLiquidityOne chain pool amount token).Plain := by
  unfold removeLiquidityOne
  refine .bind (Plan.plain_ofExcept _) fun router => .bind (Plan.plain_read _ _) fun tokens => ?_
  dsimp only
  split
  · exact .bind (Plan.plain_read _ _) fun _ => trivial
  · trivial

-- Whether the contract answers or not, what it is asked about is the position itself.
theorem removeLiquidityOne_exact (found : sdk.router chain = .ok router)
    (tokensSaid : backend.answer router (.poolTokens pool) s = (.ok tokens, between)) {asked : Router} {held : Address}
    {burnt : Amount} {position : UInt8}
    (sent : .asked asked (.withdrawOne held burnt position) ∈
      ((sdk.removeLiquidityOne chain pool amount token).run backend s).events) :
    position.toNat = poolTokenIndex tokens token := by
  rw [← Event.mem_calls, Plan.calls_run removeLiquidityOne_plain, removeLiquidityOne_calls found tokensSaid] at sent
  rcases List.mem_cons.mp sent with first | second
  · cases first
  · split at second
    · rename_i small
      cases List.mem_singleton.mp second
      exact UInt8.toNat_ofNat_of_lt small
    · cases second

theorem removeLiquidityOne_position (amount : Amount) (token : Address) (found : sdk.router chain = .ok router)
    (tokensSaid : backend.answer router (.poolTokens pool) s = (.ok tokens, between)) :
    let outcome := (sdk.removeLiquidityOne chain pool amount token).run backend s
    ∃ index, StandsFor tokens token index ∧
      (index ≤ 255 → ∃ position : UInt8, position.toNat = index ∧
        ∀ value after, backend.answer router (.withdrawOne pool amount position) between = (.ok value, after) →
          outcome = ⟨.ok ⟨⟨value, index⟩, router.address⟩,
            [.asked router (.poolTokens pool), .asked router (.withdrawOne pool amount position)], after⟩) ∧
      (255 < index → outcome =
        ⟨.error (.validation "token" (.poolIndex index)), [.asked router (.poolTokens pool)], between⟩) ∧
      ∀ asked held burnt (position : UInt8), .asked asked (.withdrawOne held burnt position) ∈ outcome.events →
        position.toNat = index := by
  intro outcome
  refine ⟨poolTokenIndex tokens token, standsFor_poolTokenIndex tokens token, fun small => ?_, fun great => ?_, ?_⟩
  · have small : poolTokenIndex tokens token < 256 := by omega
    exact ⟨UInt8.ofNat (poolTokenIndex tokens token), UInt8.toNat_ofNat_of_lt small,
      fun value after said => removeLiquidityOne_answered found tokensSaid small said⟩
  · exact removeLiquidityOne_beyond found tokensSaid (by omega)
  · intro asked held burnt position sent
    exact removeLiquidityOne_exact found tokensSaid sent

-- The first position of the fourth token could be told to the contract, its last one cannot.
def crowdedPool : Router.Fixed where
  poolTokens := { token := .ofNat 4 } :: (List.replicate 255 { token := .ofNat 5 } ++ [{ token := .ofNat 4 }])
  withdrawOneOut := .ofNat 9

theorem removeLiquidityOne_position_crowded :
    let sdk : Sdk := ⟨.twoChains, 600⟩
    let router : Router := ⟨0, 1, .ofNat 0x1A⟩
    let links : List Link := [.fixed crowdedPool]
    sdk.router 1 = .ok router ∧
    (Link.backend 1000).answer router (.poolTokens .zero) links = (.ok crowdedPool.poolTokens, links) ∧
    (sdk.removeLiquidityOne 1 .zero 3 (.ofNat 4)).run (Link.backend 1000) links =
      ⟨.error (.validation "token" (.poolIndex 256)), [.asked router (.poolTokens .zero)], links⟩ ∧
    (sdk.removeLiquidityOne 1 .zero 3 (.ofNat 6)).run (Link.backend 1000) links =
      ⟨.ok ⟨⟨9, 0⟩, router.address⟩, [.asked router (.poolTokens .zero), .asked router (.withdrawOne .zero 3 0)], links⟩ := by
  intro sdk router links
  have found : sdk.router 1 = .ok router := rfl
  have tokensSaid : (Link.backend 1000).answer router (.poolTokens .zero) links = (.ok crowdedPool.poolTokens, links) := rfl
  have last : poolTokenIndex crowdedPool.poolTokens (.ofNat 4) = 256 := by decide +kernel
  have absent : poolTokenIndex crowdedPool.poolTokens (.ofNat 6) = 0 := by decide +kernel
  refine ⟨found, tokensSaid, ?_, ?_⟩
  · obtain ⟨index, stands, -, beyond, -⟩ := removeLiquidityOne_position 3 (.ofNat 4) found tokensSaid
    obtain rfl : 256 = index := last.symm.trans stands.eq
    exact beyond (by omega)
  · obtain ⟨index, stands, within, -, -⟩ := removeLiquidityOne_position 3 (.ofNat 6) found tokensSaid
    obtain rfl : 0 = index := absent.symm.trans stands.eq
    obtain ⟨position, zero, answered⟩ := within (by omega)
    obtain rfl : position = 0 := UInt8.toNat_inj.mp zero
    exact answered 9 links rfl

end Sdk

end RouteQuote
