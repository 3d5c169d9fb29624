import RouteQuote.Proofs.Keyed
import RouteQuote.Router.Script
import RouteQuote.Sdk.Basic

namespace RouteQuote

namespace Registry

variable {r : Registry} {chain : ChainId} {token : Address}

theorem entry_eq_ok {e : ChainEntry} : r.entry chain = .ok e ↔ Keyed.get? chain r.chains = some e := by
  unfold entry
  cases Keyed.get? chain r.chains <;> simp

theorem mem_of_entry {e : ChainEntry} (found : r.entry chain = .ok e) : (chain, e) ∈ r.chains :=
  Keyed.mem_of_get? (entry_eq_ok.mp found)

theorem normalize_placeholder (placeholder : token.isNativePlaceholder = true) :
    r.normalize chain token = r.nativeToken chain := if_pos placeholder

theorem normalize_other (other : token.isNativePlaceholder = false) : r.normalize chain token = .ok token :=
  if_neg (by simp [other])

theorem entry_configured (configured : chain ∈ r.ids) : ∃ e, r.entry chain = .ok e ∧ (chain, e) ∈ r.chains := by
  cases found : r.chains.find? (·.1 == chain) with
  | none =>
    obtain ⟨pair, member, same⟩ := List.mem_map.mp configured
    have differs := List.find?_eq_none.mp found pair member
    simp [same] at differs
  | some pair =>
    have same : pair.1 = chain := by simpa using List.find?_some found
    refine ⟨pair.2, by simp [entry, Keyed.get?, found], ?_⟩
    rw [← same]
    exact List.mem_of_find?_eq_some found

theorem entry_missing (missing : chain ∉ r.ids) : r.entry chain = .error (.unsupportedChain chain) := by
  have found : r.chains.find? (·.1 == chain) = none := by
    rw [List.find?_eq_none]
    intro pair member same
    exact missing (List.mem_map.mpr ⟨pair, member, by simpa using same⟩)
  simp [entry, Keyed.get?, found]

theorem router_configured (configured : chain ∈ r.ids) :
    ∃ e, r.router chain = .ok e.router ∧ r.nativeToken chain = .ok e.nativeToken ∧ (chain, e) ∈ r.chains := by
  obtain ⟨e, found, member⟩ := entry_configured configured
  exact ⟨e, by simp [router, found, Functor.map, Except.map], by simp [nativeToken, found, Functor.map, Except.map], member⟩

theorem router_missing (missing : chain ∉ r.ids) : r.router chain = .error (.unsupportedChain chain) := by
  simp [router, entry_missing missing, Functor.map, Except.map]

theorem nativeToken_missing (missing : chain ∉ r.ids) : r.nativeToken chain = .error (.unsupportedChain chain) := by
  simp [nativeToken, entry_missing missing, Functor.map, Except.map]

theorem normalize_configured (configured : chain ∈ r.ids) (token : Address) :
    ∃ normal, r.normalize chain token = .ok normal := by
  unfold normalize
  split
  · obtain ⟨e, _, native, _⟩ := router_configured configured
    exact ⟨e.nativeToken, native⟩
  · exact ⟨token, rfl⟩

-- A token that is no placeholder needs no chain; only the lookup of the router finds the chain missing.
theorem normalize_missing (missing : chain ∉ r.ids) (token : Address) :
    r.normalize chain token = .error (.unsupportedChain chain) ∨ r.normalize chain token = .ok token := by
  unfold normalize
  split
  · exact .inl (nativeToken_missing missing)
  · exact .inr rfl

theorem configured_of_router {router : Router} (found : r.router chain = .ok router) : chain ∈ r.ids := by
  by_cases configured : chain ∈ r.ids
  · exact configured
  · rw [router_missing configured] at found
    cases found

-- Every router is registered under the chain that it says it is on.
def OwnIds (r : Registry) : Prop := ∀ pair ∈ r.chains, pair.2.router.chainId = pair.1

theorem OwnIds.chainId {router : Router} (own : r.OwnIds) (found : r.router chain = .ok router) :
    router.chainId = chain := by
  obtain ⟨e, same, _, member⟩ := router_configured (configured_of_router found)
  rw [same] at found
  cases found
  exact own _ member

def twoChains : Registry where
  chains := [(1, { router := ⟨0, 1, .ofNat 0x1A⟩ }), (10, { router := ⟨1, 10, .ofNat 0x2B⟩ })]

theorem twoChains_ownIds : twoChains.OwnIds := by
  unfold OwnIds
  decide

-- Of the tokens that connect the second chain the first cannot be bridged, and the last promises most.
def twoRouters : List Router.Fixed := [
  { originQueries := [{ minAmountOut := 90, tokenOut := .ofNat 0xA }, { minAmountOut := 80, rawParams := [1, 2, 3] }] },
  { bridgeTokens := [⟨"", .ofNat 0xC⟩, ⟨"nUSD", .ofNat 0xD⟩, ⟨"nETH", .ofNat 0xE⟩]
    destQueries := [{ minAmountOut := 70 }, { minAmountOut := 75 }]
    bridgeFee := 5 }]

end Registry

end RouteQuote

namespace RouteQuote

namespace Keyed

end Keyed

-- Of the positions of a chain the last one.
structure LastOf (chains : List ChainId) (chain : ChainId) (i : Nat) : Prop where
  listed : chains[i]? = some chain
  last : ∀ j, i < j → chains[j]? ≠ some chain

theorem LastOf.unique {chains : List ChainId} {chain : ChainId} {i j : Nat} (one : LastOf chains chain i)
    (two : LastOf chains chain j) : i = j := by
  rcases Nat.lt_trichotomy i j with before | same | after
  · exact absurd two.listed (one.last j before)
  · exact same
  · exact absurd one.listed (two.last i after)

namespace Registry

section

variable {chains : List ChainId} {routers : List Router} {r : Registry} {chain : ChainId} {i : Nat}

end

section

variable {r : Registry} {chain other : ChainId} {token : Address}

theorem setNativeToken_configured (configured : chain ∈ r.ids) (token : Address) :
    r.setNativeToken chain token = (.ok (), r.withCoin chain token) := by
  obtain ⟨e, found, _⟩ := entry_configured configured
  unfold setNativeToken
  rw [found]

theorem setNativeToken_missing (missing : chain ∉ r.ids) (token : Address) :
    r.setNativeToken chain token = (.error (.unsupportedChain chain), r) := by
  unfold setNativeToken
  rw [entry_missing missing]

theorem entry_withCoin : (r.withCoin chain token).entry other =
    (fun e => if chain = other then { e with nativeToken := token } else e) <$> r.entry other := by
  unfold entry withCoin
  dsimp only
  rw [Keyed.get?_modify]
  by_cases same : chain = other
  · subst same
    cases Keyed.get? chain r.chains <;> simp [Functor.map, Except.map]
  · cases Keyed.get? other r.chains <;> simp [same, Functor.map, Except.map]

end

end Registry

end RouteQuote
