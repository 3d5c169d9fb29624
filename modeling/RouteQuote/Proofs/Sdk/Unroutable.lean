import RouteQuote.Proofs.Sdk.BridgeQuote

namespace RouteQuote

-- The second list is the first with tokens put in, at any places, that have no symbol or no address.
inductive Diluted : List BridgeToken → List BridgeToken → Prop where
  | nil : Diluted [] []
  | keep {small large : List BridgeToken} (token : BridgeToken) (diluted : Diluted small large) :
      Diluted (token :: small) (token :: large)
  | insert {small large : List BridgeToken} {token : BridgeToken} (unroutable : token.symbol = "" ∨ token.token = .zero)
      (diluted : Diluted small large) : Diluted small (token :: large)

theorem Diluted.routable {small large : List BridgeToken} (diluted : Diluted small large) :
    routable large = routable small := by
  induction diluted with
  | nil => rfl
  | keep token _ ih => simp only [RouteQuote.routable, List.filter_cons] at ih ⊢; rw [ih]
  | @insert _ _ token unroutable _ ih =>
    have dropped : ¬ token.isRoutable = true := by
      rcases unroutable with symbol | address <;> simp [BridgeToken.isRoutable, *]
    exact (List.filter_cons_of_neg dropped).trans ih

theorem Diluted.isEmpty {small large : List BridgeToken} (diluted : Diluted small large) (connects : small ≠ []) :
    small.isEmpty = false ∧ large.isEmpty = false := by
  cases diluted with
  | nil => exact absurd rfl connects
  | keep => exact ⟨rfl, rfl⟩
  | insert => exact ⟨by simpa using connects, rfl⟩

def Read.AsksConnected : Read → Prop
  | .connectedBridgeTokens _ => True
  | _ => False

-- The same routers, but that these tokens are connected.
def Backend.connecting (backend : Backend σ) (connected : List BridgeToken) : Backend σ where
  answer router question s :=
    match question with
    | .connectedBridgeTokens tokenOut => (.ok connected, (backend.answer router (.connectedBridgeTokens tokenOut) s).2)
    | question => backend.answer router question s
  timing := backend.timing
  clock := backend.clock

theorem Backend.connecting_other (backend : Backend σ) (connected : List BridgeToken) {question : Read}
    (other : ¬ question.AsksConnected) (router : Router) (s : σ) :
    (backend.connecting connected).answer router question s = backend.answer router question s := by
  cases question with
  | connectedBridgeTokens => exact absurd trivial other
  | _ => rfl

theorem Backend.both_connecting (backend : Backend σ) (connected : List BridgeToken) {one two : Read}
    (other : ¬ one.AsksConnected ∧ ¬ two.AsksConnected) (router : Router) (s : σ) :
    (backend.connecting connected).both router one two s = backend.both router one two s := by
  have second (s : σ) := backend.connecting_other connected other.2 router s
  unfold Backend.both
  rw [backend.connecting_other connected other.1]
  simp only [second]
  rfl

namespace Plan

-- Whatever is answered, nobody is asked what is connected.
def LeavesConnected : Plan α → Prop
  | .done _ => True
  | .fail _ => True
  | .note _ next => next.LeavesConnected
  | .clock next => ∀ now, (next now).LeavesConnected
  | .ask _ question next => ¬ question.AsksConnected ∧ ∀ answer, (next answer).LeavesConnected
  | .askBoth _ one two next =>
    (¬ one.AsksConnected ∧ ¬ two.AsksConnected) ∧ ∀ first second, (next first second).LeavesConnected

theorem leavesConnected_given {value : Except Error α} {next : α → Plan β} (rest : ∀ a, (next a).LeavesConnected) :
    (ofExcept value >>= next).LeavesConnected := by
  cases value with
  | error e => trivial
  | ok a => exact rest a

-- By induction on the plan: such a plan cannot tell which tokens are connected.
theorem run_connecting {plan : Plan α} (leaves : plan.LeavesConnected) (backend : Backend σ)
    (connected : List BridgeToken) (s : σ) : plan.run (backend.connecting connected) s = plan.run backend s ∧
      plan.exchanges (backend.connecting connected) s = plan.exchanges backend s := by
  induction plan generalizing s with
  | done a => exact ⟨rfl, rfl⟩
  | fail e => exact ⟨rfl, rfl⟩
  | note event next ih =>
    obtain ⟨ran, said⟩ := ih leaves s
    simp only [run, exchanges, ran, said, and_self]
  | clock next ih =>
    obtain ⟨ran, said⟩ := ih (backend.clock s).1 (leaves _) (backend.clock s).2
    have same : (backend.connecting connected).clock s = backend.clock s := rfl
    simp only [run, exchanges, same, ran, said, and_self]
  | ask router question next ih =>
    have same := backend.connecting_other connected leaves.1 router s
    cases answered : backend.answer router question s with
    | mk reply after =>
      rw [answered] at same
      cases reply with
      | error reason => simp only [run, exchanges, same, answered, and_self]
      | ok answer =>
        obtain ⟨ran, said⟩ := ih answer (leaves.2 answer) after
        simp only [run, exchanges, same, answered, ran, said, and_self]
  | askBoth router one two next ih =>
    have same := backend.both_connecting connected leaves.1 router s
    cases met : backend.both router one two s with
    | mk joint after =>
      rw [met] at same
      cases joint with
      | answered first second =>
        obtain ⟨ran, said⟩ := ih first second (leaves.2 first second) after
        simp only [run, exchanges, same, met, Joint.settle, ran, said, and_self]
      | barred | firstRefused | secondRefused =>
        simp only [run, exchanges, same, met, Joint.settle, and_self]

end Plan

theorem Inquiry.planOrigin_leavesConnected (q : Inquiry) (candidates : List BridgeToken) :
    (q.planOrigin candidates).LeavesConnected := by
  refine ⟨id, fun originQueries => Plan.leavesConnected_given fun _ => ⟨id, fun destQueries =>
    Plan.leavesConnected_given fun _ => ?_⟩⟩
  split
  · trivial
  · exact ⟨⟨id, id⟩, fun _ _ => trivial⟩

-- The first call is answered with the connected tokens; from there on only the candidates among them matter.
theorem Inquiry.plan_connecting (q : Inquiry) (backend : Backend σ) (s : σ) {connected : List BridgeToken}
    (connects : connected.isEmpty = false) :
    let question := Read.connectedBridgeTokens q.tokenOut
    let after := (backend.answer q.destRouter question s).2
    let rest := (q.planOrigin (routable connected)).run backend after
    q.plan.run (backend.connecting connected) s = { rest with events := .asked q.destRouter question :: rest.events } ∧
    q.plan.exchanges (backend.connecting connected) s =
      q.connectedSaid (.ok connected) :: (q.planOrigin (routable connected)).exchanges backend after := by
  intro question after rest
  obtain ⟨ran, said⟩ :=
    Plan.run_connecting (q.planOrigin_leavesConnected (routable connected)) backend connected after
  have answered : (backend.connecting connected).answer q.destRouter question s = (.ok connected, after) := rfl
  have asks : q.plan = .ask q.destRouter question fun connected =>
    if connected.isEmpty then .fail (.noRoute q.origin q.dest q.tokenOut) else q.planOrigin (routable connected) := rfl
  rw [asks]
  simp only [Plan.run, Plan.exchanges, answered, connects, Bool.false_eq_true, if_false, ran, said]
  exact ⟨rfl, rfl⟩

namespace Sdk

variable {sdk : Sdk} {origin dest : ChainId} {tokenIn tokenOut : Address} {amountIn : Amount}
  {deadline : Option Amount}

theorem bridgeQuote_connecting {q : Inquiry} {backend : Backend σ} {s : σ} {connected : List BridgeToken}
    (opens : sdk.Opens (backend.clock s).1 origin dest tokenIn tokenOut amountIn deadline q)
    (connects : connected.isEmpty = false) :
    let plan := sdk.bridgeQuote origin dest tokenIn tokenOut amountIn deadline
    let question := Read.connectedBridgeTokens q.tokenOut
    let after := (backend.answer q.destRouter question (backend.dated deadline s)).2
    let rest := (q.planOrigin (routable connected)).run backend after
    plan.run (backend.connecting connected) s =
      ⟨rest.result, backend.dating deadline s ++ .asked q.destRouter question :: rest.events, rest.state⟩ ∧
    plan.exchanges (backend.connecting connected) s =
      q.connectedSaid (.ok connected) :: (q.planOrigin (routable connected)).exchanges backend after := by
  intro plan question after rest
  obtain ⟨ran, said⟩ := q.plan_connecting backend (backend.dated deadline s) connects
  have clocked : sdk.Opens ((backend.connecting connected).clock s).1 origin dest tokenIn tokenOut amountIn deadline q :=
    opens
  constructor
  · refine (run_bridgeQuote clocked).trans ?_
    have dated : (backend.connecting connected).dated deadline s = backend.dated deadline s := rfl
    rw [dated, ran]
    rfl
  · exact (exchanges_bridgeQuote clocked).trans said

theorem bridgeQuote_diluted (sdk : Sdk) (origin dest : ChainId) (tokenIn tokenOut : Address)
    (amountIn : Amount) (deadline : Option Amount) (backend : Backend σ) (s : σ) (small large : List BridgeToken)
    (connects : small ≠ []) (diluted : Diluted small large) :
    let plan := sdk.bridgeQuote origin dest tokenIn tokenOut amountIn deadline
    plan.run (backend.connecting small) s = plan.run (backend.connecting large) s ∧
    (plan.exchanges (backend.connecting small) s).tail = (plan.exchanges (backend.connecting large) s).tail ∧
    (plan.exchanges (backend.connecting small) s).map Exchange.call =
      (plan.exchanges (backend.connecting large) s).map Exchange.call := by
  intro plan
  by_cases configured : origin ∈ sdk.registry.ids ∧ dest ∈ sdk.registry.ids
  · obtain ⟨q, opens⟩ : ∃ q, sdk.Opens (backend.clock s).1 origin dest tokenIn tokenOut amountIn deadline q :=
      opens_configured configured.1 configured.2
    obtain ⟨someSmall, someLarge⟩ := diluted.isEmpty connects
    obtain ⟨ranSmall, saidSmall⟩ := bridgeQuote_connecting opens someSmall
    obtain ⟨ranLarge, saidLarge⟩ := bridgeQuote_connecting opens someLarge
    rw [diluted.routable] at ranLarge saidLarge
    refine ⟨ranSmall.trans ranLarge.symm, ?_, ?_⟩
    · rw [saidSmall, saidLarge]
      rfl
    · rw [saidSmall, saidLarge]
      rfl
  · obtain ⟨chain, _, _, fails⟩ := bridgeQuote_unconfigured (Decidable.not_and_iff_not_or_not.mp configured)
      tokenIn tokenOut amountIn deadline
    simp only [plan, fails]
    exact ⟨rfl, rfl, rfl⟩

-- One token without a symbol in front, and one without an address between the two that can be bridged.
theorem bridgeQuote_diluted_twice :
    let small : List BridgeToken := [⟨"nUSD", .ofNat 0xD⟩, ⟨"nETH", .ofNat 0xE⟩]
    let large : List BridgeToken := [⟨"", .ofNat 0xC⟩, ⟨"nUSD", .ofNat 0xD⟩, ⟨"nBTC", .zero⟩, ⟨"nETH", .ofNat 0xE⟩]
    let plan := twoChains.bridgeQuote 1 10 (.ofNat 0xA1) (.ofNat 0xA2) 100 none
    small ≠ [] ∧ Diluted small large ∧ ∃ quote,
      (plan.run ((Link.backend 1000).connecting large) twoLinks).result = .ok quote ∧ quote.maxAmountOut = 75 ∧
      (plan.run ((Link.backend 1000).connecting small) twoLinks).result = .ok quote := by
  intro small large plan
  have diluted : Diluted small large :=
    .insert (.inl rfl) (.keep _ (.insert (.inr rfl) (.keep _ .nil)))
  refine ⟨by simp [small], diluted, _, rfl, rfl, ?_⟩
  obtain ⟨ran, _⟩ := bridgeQuote_diluted twoChains 1 10 (.ofNat 0xA1) (.ofNat 0xA2) 100 none (Link.backend 1000) twoLinks
    small large (by simp [small]) diluted
  rw [ran]
  rfl

end Sdk

end RouteQuote
