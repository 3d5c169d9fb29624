import RouteQuote.Proofs.Chain.Registry
import RouteQuote.Proofs.Router.Exchange
import RouteQuote.Proofs.Sdk.BestRoute
import RouteQuote.Sdk.Quotes

namespace RouteQuote

-- What is wanted, with both tokens normalised and the routers of both chains found.
structure Inquiry where
  origin : ChainId
  dest : ChainId
  originRouter : Router
  destRouter : Router
  tokenIn : Address
  tokenOut : Address
  amountIn : Amount
  deadline : Amount

abbrev routable (connected : List BridgeToken) : List BridgeToken := connected.filter BridgeToken.isRoutable

namespace Inquiry

variable (q : Inquiry) (candidates : List BridgeToken) (originQueries : List Query)

def connectedSaid (reply : Except String (List BridgeToken)) : Exchange :=
  ⟨q.destRouter, .connectedBridgeTokens q.tokenOut, reply⟩

def originSaid (reply : Except String (List Query)) : Exchange :=
  ⟨q.originRouter, .originAmountOut q.tokenIn (candidates.map BridgeToken.symbol) q.amountIn, reply⟩

def destSaid (reply : Except String (List Query)) : Exchange :=
  ⟨q.destRouter, .destinationAmountOut (Sdk.destRequests candidates originQueries) q.tokenOut, reply⟩

def bridgeFeeSaid (best : BestRoute) (reply : Except String Amount) : Exchange :=
  ⟨q.destRouter, .bridgeFee best.bridgeToken best.originQuery.minAmountOut, reply⟩

def feeSaid (best : BestRoute) (reply : Except String FeeConfig) : Exchange :=
  ⟨q.destRouter, .fee best.bridgeToken, reply⟩

def quote (most : Amount) (best : BestRoute) (feeAmount : Amount) (feeConfig : FeeConfig) : BridgeQuote where
  feeAmount := some feeAmount
  feeConfig := some feeConfig
  routerAddress := q.originRouter.address
  maxAmountOut := most
  originQuery := some (best.originQuery.withDeadline q.deadline)
  destQuery := some (best.destQuery.withDeadline q.deadline)

variable {q candidates originQueries}

@[simp] theorem connectedSaid_inj {one two : Except String (List BridgeToken)} :
    q.connectedSaid one = q.connectedSaid two ↔ one = two := by simp [connectedSaid]

@[simp] theorem originSaid_inj {one two : Except String (List Query)} :
    q.originSaid candidates one = q.originSaid candidates two ↔ one = two := by simp [originSaid]

@[simp] theorem destSaid_inj {one two : Except String (List Query)} :
    q.destSaid candidates originQueries one = q.destSaid candidates originQueries two ↔ one = two := by simp [destSaid]

end Inquiry

-- A quote from its end: with the best route chosen, with the origin queries there, with the candidates known, and whole.
namespace Inquiry

open Plan

variable (q : Inquiry)

def planFees (candidates : List BridgeToken) (most : Amount) (best : BestRoute) : Plan BridgeQuote := do
  let (feeAmount, feeConfig) ←
    readBoth q.destRouter (.bridgeFee best.bridgeToken best.originQuery.minAmountOut) (.fee best.bridgeToken)
  let symbol := (candidates[best.index]?.map BridgeToken.symbol).getD ""
  emit (.selected q.origin q.dest symbol most feeAmount)
  return q.quote most best feeAmount feeConfig

def planDest (candidates : List BridgeToken) (originQueries : List Query) : Plan BridgeQuote := do
  let requests := Sdk.destRequests candidates originQueries
  let destQueries ← read q.destRouter (.destinationAmountOut requests q.tokenOut)
  ensureCount q.dest "getDestinationAmountOut" destQueries.length requests.length
  match BestRoute.select candidates originQueries destQueries with
  | (most, none) =>
    emit (.routeless q.origin q.dest candidates.length)
    return Sdk.emptyQuote q.originRouter.address most
  | (most, some best) => q.planFees candidates most best

def planOrigin (candidates : List BridgeToken) : Plan BridgeQuote := do
  let originQueries ← read q.originRouter (.originAmountOut q.tokenIn (candidates.map BridgeToken.symbol) q.amountIn)
  ensureCount q.origin "getOriginAmountOut" originQueries.length candidates.length
  q.planDest candidates originQueries

def plan : Plan BridgeQuote := do
  let connected ← read q.destRouter (.connectedBridgeTokens q.tokenOut)
  if connected.isEmpty then .fail (.noRoute q.origin q.dest q.tokenOut) else q.planOrigin (routable connected)

end Inquiry

-- What is said and what comes out when both fees are asked for, by the way in which the questions overlap.
inductive FeeCourse (q : Inquiry) (timing : Timing) (most : Amount) (best : BestRoute) :
    List Exchange → Except Error BridgeQuote → Prop where
  | barred (early : timing = .atOnce) (reason : String) :
      FeeCourse q timing most best [q.bridgeFeeSaid best (.error reason)]
        (.error (.contract q.destRouter.chainId "calculateBridgeFee" (.refused reason)))
  | bridgeFeeRefused (pending : timing ≠ .atOnce) (reason : String) {reply : Except String FeeConfig}
      (counts : timing = .secondBack → ∃ feeConfig, reply = .ok feeConfig) :
      FeeCourse q timing most best [q.bridgeFeeSaid best (.error reason), q.feeSaid best reply]
        (.error (.contract q.destRouter.chainId "calculateBridgeFee" (.refused reason)))
  | feeRefused (reason : String) {reply : Except String Amount}
      (counts : timing ≠ .secondBack → ∃ feeAmount, reply = .ok feeAmount) :
      FeeCourse q timing most best [q.bridgeFeeSaid best reply, q.feeSaid best (.error reason)]
        (.error (.contract q.destRouter.chainId "fee" (.refused reason)))
  | routed (feeAmount : Amount) (feeConfig : FeeConfig) :
      FeeCourse q timing most best [q.bridgeFeeSaid best (.ok feeAmount), q.feeSaid best (.ok feeConfig)]
        (.ok (q.quote most best feeAmount feeConfig))

inductive DestCourse (q : Inquiry) (overlaps : Timing → Prop) (candidates : List BridgeToken)
    (originQueries : List Query) : List Exchange → Except Error BridgeQuote → Prop where
  | refused (reason : String) :
      DestCourse q overlaps candidates originQueries [q.destSaid candidates originQueries (.error reason)]
        (.error (.contract q.destRouter.chainId "getDestinationAmountOut" (.refused reason)))
  | miscounted {destQueries : List Query} (wrong : destQueries.length ≠ candidates.length) :
      DestCourse q overlaps candidates originQueries [q.destSaid candidates originQueries (.ok destQueries)]
        (.error (.contract q.dest "getDestinationAmountOut" (.countMismatch destQueries.length candidates.length)))
  | routeless {destQueries : List Query} {most : Amount} (counted : destQueries.length = candidates.length)
      (chosen : BestRoute.select candidates originQueries destQueries = (most, none)) :
      DestCourse q overlaps candidates originQueries [q.destSaid candidates originQueries (.ok destQueries)]
        (.ok (Sdk.emptyQuote q.originRouter.address most))
  | chosen {destQueries : List Query} {most : Amount} {best : BestRoute} {timing : Timing} {said : List Exchange}
      {result : Except Error BridgeQuote} (counted : destQueries.length = candidates.length)
      (chosen : BestRoute.select candidates originQueries destQueries = (most, some best)) (overlap : overlaps timing)
      (fees : FeeCourse q timing most best said result) :
      DestCourse q overlaps candidates originQueries (q.destSaid candidates originQueries (.ok destQueries) :: said) result

inductive OriginCourse (q : Inquiry) (overlaps : Timing → Prop) (candidates : List BridgeToken) :
    List Exchange → Except Error BridgeQuote → Prop where
  | refused (reason : String) :
      OriginCourse q overlaps candidates [q.originSaid candidates (.error reason)]
        (.error (.contract q.originRouter.chainId "getOriginAmountOut" (.refused reason)))
  | miscounted {originQueries : List Query} (wrong : originQueries.length ≠ candidates.length) :
      OriginCourse q overlaps candidates [q.originSaid candidates (.ok originQueries)]
        (.error (.contract q.origin "getOriginAmountOut" (.countMismatch originQueries.length candidates.length)))
  | counted {originQueries : List Query} {said : List Exchange} {result : Except Error BridgeQuote}
      (counted : originQueries.length = candidates.length)
      (rest : DestCourse q overlaps candidates originQueries said result) :
      OriginCourse q overlaps candidates (q.originSaid candidates (.ok originQueries) :: said) result

inductive Course (q : Inquiry) (overlaps : Timing → Prop) : List Exchange → Except Error BridgeQuote → Prop where
  | refused (reason : String) :
      Course q overlaps [q.connectedSaid (.error reason)]
        (.error (.contract q.destRouter.chainId "getConnectedBridgeTokens" (.refused reason)))
  | unconnected : Course q overlaps [q.connectedSaid (.ok [])] (.error (.noRoute q.origin q.dest q.tokenOut))
  | connected {connected : List BridgeToken} {said : List Exchange} {result : Except Error BridgeQuote}
      (connects : connected ≠ []) (rest : OriginCourse q overlaps (routable connected) said result) :
      Course q overlaps (q.connectedSaid (.ok connected) :: said) result

-- The ways in which some two questions to a router overlap at some time.
def Backend.Overlaps (backend : Backend σ) (router : Router) (timing : Timing) : Prop :=
  ∃ one two s, backend.timing router one two s = timing

namespace Inquiry

variable (q : Inquiry) (backend : Backend σ) (s : σ)

theorem planFees_course (candidates : List BridgeToken) (most : Amount) (best : BestRoute) :
    ∃ timing, backend.Overlaps q.destRouter timing ∧ FeeCourse q timing most best
      ((q.planFees candidates most best).exchanges backend s) ((q.planFees candidates most best).run backend s).result := by
  let bridgeFee := Read.bridgeFee best.bridgeToken best.originQuery.minAmountOut
  let fee := Read.fee best.bridgeToken
  refine ⟨backend.timing q.destRouter bridgeFee fee s, ⟨bridgeFee, fee, s, rfl⟩, ?_⟩
  refine Plan.readBoth_cases (P := FeeCourse q _ most best) ?_ fun feeAmount feeConfig s => .routed feeAmount feeConfig
  intro joint e events meets settled
  cases meets with
  | answered => cases settled
  | barred early reason =>
    cases settled
    exact .barred early reason
  | firstRefused pending reason counts =>
    cases settled
    exact .bridgeFeeRefused pending reason counts
  | secondRefused reason counts =>
    cases settled
    exact .feeRefused reason counts

theorem planDest_course {candidates : List BridgeToken} {originQueries : List Query}
    (origins : originQueries.length = candidates.length) :
    DestCourse q (backend.Overlaps q.destRouter) candidates originQueries
      ((q.planDest candidates originQueries).exchanges backend s)
      ((q.planDest candidates originQueries).run backend s).result := by
  have requests : (Sdk.destRequests candidates originQueries).length = candidates.length := by
    simp [Sdk.destRequests, origins]
  refine Plan.read_cases (P := DestCourse q _ candidates originQueries) .refused fun destQueries s => ?_
  by_cases counted : destQueries.length = candidates.length
  · rw [ensureCount, if_pos (counted.trans requests.symm)]
    cases chosen : BestRoute.select candidates originQueries destQueries with
    | mk most route =>
      cases route with
      | none => exact .routeless counted chosen
      | some best =>
        obtain ⟨timing, overlap, fees⟩ := q.planFees_course backend s candidates most best
        exact .chosen counted chosen overlap fees
  · rw [ensureCount, requests, if_neg counted]
    exact .miscounted counted

theorem planOrigin_course (candidates : List BridgeToken) :
    OriginCourse q (backend.Overlaps q.destRouter) candidates ((q.planOrigin candidates).exchanges backend s)
      ((q.planOrigin candidates).run backend s).result := by
  refine Plan.read_cases (P := OriginCourse q _ candidates) .refused fun originQueries s => ?_
  by_cases counted : originQueries.length = candidates.length
  · rw [ensureCount, if_pos counted]
    exact .counted counted (q.planDest_course backend s counted)
  · rw [ensureCount, if_neg counted]
    exact .miscounted counted

theorem plan_course :
    Course q (backend.Overlaps q.destRouter) (q.plan.exchanges backend s) (q.plan.run backend s).result := by
  refine Plan.read_cases (P := Course q _) .refused fun connected s => ?_
  by_cases connects : connected = []
  · subst connected
    exact .unconnected
  · rw [if_neg (by simpa using connects)]
    exact .connected connects (q.planOrigin_course backend s _)

theorem plan_plain : q.plan.Plain := by
  refine .bind (Plan.plain_read _ _) fun connected => ?_
  split
  · trivial
  refine .bind (Plan.plain_read _ _) fun _ => .bind (Plan.plain_ofExcept _) fun _ =>
    .bind (Plan.plain_read _ _) fun _ => .bind (Plan.plain_ofExcept _) fun _ => ?_
  split
  · exact ⟨rfl, nofun, trivial⟩
  · exact .bind (Plan.plain_readBoth _ _ _) fun _ => ⟨rfl, nofun, trivial⟩

theorem plan_timeless : q.plan.Timeless := by
  refine Plan.timeless_read fun connected => ?_
  split
  · trivial
  refine Plan.timeless_read fun _ => Plan.timeless_given fun _ => Plan.timeless_read fun _ =>
    Plan.timeless_given fun _ => ?_
  split
  · trivial
  · exact fun _ _ => trivial

end Inquiry

-- The state in which the routers are asked, and what happened up to then: the clock was read, or a deadline was given.
def Backend.dated (backend : Backend σ) (deadline : Option Amount) (s : σ) : σ :=
  if deadline.isSome then s else (backend.clock s).2

def Backend.dating (backend : Backend σ) (deadline : Option Amount) (s : σ) : List Event :=
  if deadline.isSome then [] else [.clocked (backend.clock s).1]

section

variable {lifetime : UInt64} {deadline : Option Amount} {next : Amount → Plan α} {backend : Backend σ} {s : σ}

theorem plain_resolveDeadline (lifetime : UInt64) (deadline : Option Amount) :
    (resolveDeadline lifetime deadline).Plain := by
  cases deadline
  · exact fun _ => trivial
  · trivial

theorem run_resolveDeadline : (resolveDeadline lifetime deadline >>= next).run backend s =
    let rest := (next (deadline.getD (dueAt (backend.clock s).1 lifetime))).run backend (backend.dated deadline s)
    ⟨rest.result, backend.dating deadline s ++ rest.events, rest.state⟩ := by
  cases deadline <;> rfl

theorem exchanges_resolveDeadline : (resolveDeadline lifetime deadline >>= next).exchanges backend s =
    (next (deadline.getD (dueAt (backend.clock s).1 lifetime))).exchanges backend (backend.dated deadline s) := by
  cases deadline <;> rfl

end

namespace Sdk

variable {sdk : Sdk} {now : UInt64} {origin dest : ChainId} {tokenIn tokenOut : Address} {amountIn : Amount}
  {deadline : Option Amount}

-- The inquiry that the arguments come down to when both chains are configured.
structure Opens (sdk : Sdk) (now : UInt64) (origin dest : ChainId) (tokenIn tokenOut : Address) (amountIn : Amount)
    (deadline : Option Amount) (q : Inquiry) : Prop where
  sameOrigin : q.origin = origin
  sameDest : q.dest = dest
  normalOut : sdk.registry.normalize dest tokenOut = .ok q.tokenOut
  normalIn : sdk.registry.normalize origin tokenIn = .ok q.tokenIn
  originFound : sdk.router origin = .ok q.originRouter
  destFound : sdk.router dest = .ok q.destRouter
  sameAmount : q.amountIn = amountIn
  resolved : q.deadline = deadline.getD (dueAt now sdk.deadlineSecs)

theorem opens_configured (origins : origin ∈ sdk.registry.ids) (dests : dest ∈ sdk.registry.ids) :
    ∃ q, sdk.Opens now origin dest tokenIn tokenOut amountIn deadline q := by
  obtain ⟨normalOut, outFound⟩ := Registry.normalize_configured dests tokenOut
  obtain ⟨normalIn, inFound⟩ := Registry.normalize_configured origins tokenIn
  obtain ⟨originEntry, originFound, _⟩ := Registry.router_configured origins
  obtain ⟨destEntry, destFound, _⟩ := Registry.router_configured dests
  exact ⟨⟨origin, dest, originEntry.router, destEntry.router, normalIn, normalOut, amountIn,
    deadline.getD (dueAt now sdk.deadlineSecs)⟩, rfl, rfl, outFound, inFound, originFound, destFound, rfl, rfl⟩

-- Before any router is asked the plan ends, for one of the chains that are missing.
theorem bridgeQuote_unconfigured (missing : origin ∉ sdk.registry.ids ∨ dest ∉ sdk.registry.ids)
    (tokenIn tokenOut : Address) (amountIn : Amount) (deadline : Option Amount) :
    ∃ chain, (chain = origin ∨ chain = dest) ∧ chain ∉ sdk.registry.ids ∧
      sdk.bridgeQuote origin dest tokenIn tokenOut amountIn deadline = .fail (.unsupportedChain chain) := by
  unfold bridgeQuote
  by_cases dests : dest ∈ sdk.registry.ids
  · have origins : origin ∉ sdk.registry.ids := missing.resolve_right (not_not_intro dests)
    obtain ⟨normalOut, outFound⟩ := Registry.normalize_configured dests tokenOut
    refine ⟨origin, .inl rfl, origins, ?_⟩
    rw [outFound, Sdk.router, Registry.router_missing origins]
    rcases Registry.normalize_missing origins tokenIn with failed | kept
    · rw [failed]; rfl
    · rw [kept]; rfl
  · rcases Registry.normalize_missing dests tokenOut with failed | kept
    · rw [failed]
      exact ⟨dest, .inr rfl, dests, rfl⟩
    · rw [kept]
      by_cases origins : origin ∈ sdk.registry.ids
      · obtain ⟨normalIn, inFound⟩ := Registry.normalize_configured origins tokenIn
        obtain ⟨originEntry, originFound, _⟩ := Registry.router_configured origins
        refine ⟨dest, .inr rfl, dests, ?_⟩
        rw [inFound, Sdk.router, Sdk.router, originFound, Registry.router_missing dests]
        rfl
      · refine ⟨origin, .inl rfl, origins, ?_⟩
        rw [Sdk.router, Registry.router_missing origins]
        rcases Registry.normalize_missing origins tokenIn with failed | keptIn
        · rw [failed]; rfl
        · rw [keptIn]; rfl

theorem bridgeQuote_plain : (sdk.bridgeQuote origin dest tokenIn tokenOut amountIn deadline).Plain := by
  unfold bridgeQuote
  refine .bind (Plan.plain_ofExcept _) fun tokenOut => .bind (Plan.plain_ofExcept _) fun tokenIn =>
    .bind (Plan.plain_ofExcept _) fun originRouter => .bind (Plan.plain_ofExcept _) fun destRouter =>
    .bind (plain_resolveDeadline _ _) fun due => ?_
  exact (Inquiry.mk origin dest originRouter destRouter tokenIn tokenOut amountIn due).plan_plain

theorem bridgeQuote_opened {q : Inquiry} (opens : sdk.Opens now origin dest tokenIn tokenOut amountIn deadline q) :
    sdk.bridgeQuote origin dest tokenIn tokenOut amountIn deadline =
      resolveDeadline sdk.deadlineSecs deadline >>= fun due => ({ q with deadline := due } : Inquiry).plan := by
  obtain ⟨rfl, rfl, normalOut, normalIn, originFound, destFound, rfl, _⟩ := opens
  unfold bridgeQuote
  rw [normalOut, normalIn, originFound, destFound]
  rfl

variable {backend : Backend σ} {s : σ} {q : Inquiry}

-- The plan of the inquiry that goes by what the clock shows, after it was read.
theorem run_bridgeQuote (opens : sdk.Opens (backend.clock s).1 origin dest tokenIn tokenOut amountIn deadline q) :
    (sdk.bridgeQuote origin dest tokenIn tokenOut amountIn deadline).run backend s =
      let rest := q.plan.run backend (backend.dated deadline s)
      ⟨rest.result, backend.dating deadline s ++ rest.events, rest.state⟩ := by
  rw [bridgeQuote_opened opens, run_resolveDeadline, ← opens.resolved]

theorem exchanges_bridgeQuote (opens : sdk.Opens (backend.clock s).1 origin dest tokenIn tokenOut amountIn deadline q) :
    (sdk.bridgeQuote origin dest tokenIn tokenOut amountIn deadline).exchanges backend s =
      q.plan.exchanges backend (backend.dated deadline s) := by
  rw [bridgeQuote_opened opens, exchanges_resolveDeadline, ← opens.resolved]

theorem bridgeQuote_course (opens : sdk.Opens (backend.clock s).1 origin dest tokenIn tokenOut amountIn deadline q) :
    Course q (backend.Overlaps q.destRouter)
      ((sdk.bridgeQuote origin dest tokenIn tokenOut amountIn deadline).exchanges backend s)
      ((sdk.bridgeQuote origin dest tokenIn tokenOut amountIn deadline).run backend s).result := by
  rw [exchanges_bridgeQuote opens, run_bridgeQuote opens]
  exact q.plan_course backend _

end Sdk

end RouteQuote
