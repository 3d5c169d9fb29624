import RouteQuote.Proofs.Chain.Registry
import RouteQuote.Proofs.Router.Exchange
import RouteQuote.Proofs.Router.Replies
import RouteQuote.Proofs.Sdk.BridgeCourse
import RouteQuote.Router.Script
import RouteQuote.Sdk.Operation
import RouteQuote.Sdk.Quotes

namespace RouteQuote

namespace Sdk

def Knows (sdk : Sdk) (router : Router) : Prop := ∃ chain, sdk.router chain = .ok router

open Plan

theorem asks_resolveDeadline {among : Router → Prop} {lifetime : UInt64} {deadline : Option Amount}
    {next : Amount → Plan α} (rest : ∀ due, (next due).Asks among) :
    (resolveDeadline lifetime deadline >>= next).Asks among := by
  cases deadline with
  | none => exact fun now => rest (dueAt now lifetime)
  | some asked => exact rest asked

theorem bridgeQuote_asks (sdk : Sdk) (origin dest : ChainId) (tokenIn tokenOut : Address)
    (amountIn : Amount) (deadline : Option Amount) :
    (sdk.bridgeQuote origin dest tokenIn tokenOut amountIn deadline).Asks sdk.Knows := by
  unfold bridgeQuote
  refine asks_given fun _ _ => asks_given fun _ _ => asks_given fun originRouter originFound =>
    asks_given fun destRouter destFound => ?_
  have originKnown : sdk.Knows originRouter := ⟨origin, originFound⟩
  have destKnown : sdk.Knows destRouter := ⟨dest, destFound⟩
  refine asks_resolveDeadline fun _ => asks_read destKnown fun connected => ?_
  split
  · trivial
  refine asks_read originKnown fun _ => asks_given fun _ _ => asks_read destKnown fun _ => asks_given fun _ _ => ?_
  split
  · trivial
  · exact asks_readBoth destKnown fun _ => trivial

theorem swapQuote_asks (sdk : Sdk) (chain : ChainId) (tokenIn tokenOut : Address) (amountIn : Amount)
    (deadline : Option Amount) : (sdk.swapQuote chain tokenIn tokenOut amountIn deadline).Asks sdk.Knows := by
  unfold swapQuote
  refine asks_given fun _ _ => asks_given fun _ _ => asks_resolveDeadline fun _ => asks_given fun router found => ?_
  exact asks_read ⟨chain, found⟩ fun _ => trivial

theorem addLiquidity_asks (sdk : Sdk) (chain : ChainId) (pool : Address) (amounts : List (Address × Amount)) :
    (sdk.addLiquidity chain pool amounts).Asks sdk.Knows := by
  unfold addLiquidity
  refine asks_given fun router found => asks_read ⟨chain, found⟩ fun _ => ?_
  dsimp only
  split
  · trivial
  · exact asks_read ⟨chain, found⟩ fun _ => trivial

theorem removeLiquidity_asks (sdk : Sdk) (chain : ChainId) (pool : Address) (amount : Amount) :
    (sdk.removeLiquidity chain pool amount).Asks sdk.Knows := by
  unfold removeLiquidity
  refine asks_given fun router found => asks_read ⟨chain, found⟩ fun _ => asks_read ⟨chain, found⟩ fun _ => ?_
  exact asks_given fun _ _ => trivial

theorem removeLiquidityOne_asks (sdk : Sdk) (chain : ChainId) (pool : Address) (amount : Amount) (token : Address) :
    (sdk.removeLiquidityOne chain pool amount token).Asks sdk.Knows := by
  unfold removeLiquidityOne
  refine asks_given fun router found => asks_read ⟨chain, found⟩ fun _ => ?_
  dsimp only
  split
  · exact asks_read ⟨chain, found⟩ fun _ => trivial
  · trivial

theorem perform_asks (sdk : Sdk) (operation : Operation) : (sdk.perform operation).Asks sdk.Knows := by
  cases operation with
  | bridgeQuote => exact bridgeQuote_asks ..
  | swapQuote => exact swapQuote_asks ..
  | bridge | swap => exact asks_ofExcept _
  | bridgeGas chain =>
    exact asks_given fun _ found => asks_read ⟨chain, found⟩ fun _ => asks_read ⟨chain, found⟩ fun _ => trivial
  | poolTokens chain | poolInfo chain | allPools chain =>
    exact asks_given fun _ found => asks_read ⟨chain, found⟩ fun _ => trivial
  | addLiquidity => exact addLiquidity_asks ..
  | removeLiquidity => exact removeLiquidity_asks ..
  | removeLiquidityOne => exact removeLiquidityOne_asks ..

-- What is done with a deadline does not look at the clock any more.
theorem clockFirst_resolveDeadline {lifetime : UInt64} {deadline : Option Amount} {next : Amount → Plan α}
    (rest : ∀ due, (next due).Timeless) : (resolveDeadline lifetime deadline >>= next).ClockFirst := by
  cases deadline with
  | none => exact fun now => rest (dueAt now lifetime)
  | some asked => exact (rest asked).clockFirst

theorem bridgeQuote_clockFirst (sdk : Sdk) (origin dest : ChainId) (tokenIn tokenOut : Address) (amountIn : Amount)
    (deadline : Option Amount) : (sdk.bridgeQuote origin dest tokenIn tokenOut amountIn deadline).ClockFirst := by
  unfold bridgeQuote
  refine clockFirst_given fun tokenOut => clockFirst_given fun tokenIn => clockFirst_given fun originRouter =>
    clockFirst_given fun destRouter => clockFirst_resolveDeadline fun due => ?_
  exact (Inquiry.mk origin dest originRouter destRouter tokenIn tokenOut amountIn due).plan_timeless

theorem swapQuote_clockFirst (sdk : Sdk) (chain : ChainId) (tokenIn tokenOut : Address) (amountIn : Amount)
    (deadline : Option Amount) : (sdk.swapQuote chain tokenIn tokenOut amountIn deadline).ClockFirst := by
  unfold swapQuote
  refine clockFirst_given fun _ => clockFirst_given fun _ => clockFirst_resolveDeadline fun due =>
    timeless_given fun router => ?_
  exact timeless_read fun _ => trivial

theorem addLiquidity_timeless (sdk : Sdk) (chain : ChainId) (pool : Address) (amounts : List (Address × Amount)) :
    (sdk.addLiquidity chain pool amounts).Timeless := by
  unfold addLiquidity
  refine timeless_given fun router => timeless_read fun tokens => ?_
  dsimp only
  split
  · trivial
  · exact timeless_read fun _ => trivial

theorem removeLiquidityOne_timeless (sdk : Sdk) (chain : ChainId) (pool : Address) (amount : Amount) (token : Address) :
    (sdk.removeLiquidityOne chain pool amount token).Timeless := by
  unfold removeLiquidityOne
  refine timeless_given fun router => timeless_read fun tokens => ?_
  dsimp only
  split
  · exact timeless_read fun _ => trivial
  · trivial

theorem perform_clockFirst (sdk : Sdk) (operation : Operation) : (sdk.perform operation).ClockFirst := by
  cases operation with
  | bridgeQuote => exact bridgeQuote_clockFirst ..
  | swapQuote => exact swapQuote_clockFirst ..
  | bridge | swap => exact (timeless_ofExcept _).clockFirst
  | bridgeGas => exact clockFirst_given fun _ => Timeless.clockFirst (timeless_read fun _ => timeless_read fun _ => trivial)
  | poolTokens | poolInfo | allPools => exact clockFirst_given fun _ => Timeless.clockFirst (timeless_read fun _ => trivial)
  | addLiquidity => exact (addLiquidity_timeless ..).clockFirst
  | removeLiquidity =>
    exact clockFirst_given fun _ => Timeless.clockFirst (timeless_read fun _ => timeless_read fun _ =>
      timeless_given fun _ => trivial)
  | removeLiquidityOne => exact (removeLiquidityOne_timeless ..).clockFirst

-- Each configured router is reached over the connection to one of the routers in memory.
def Linked (sdk : Sdk) (kept : List Router.Fixed) : Prop :=
  ∀ pair ∈ sdk.registry.chains, pair.2.router.link < kept.length

theorem Linked.known {sdk : Sdk} {kept : List Router.Fixed} {router : Router} (linked : sdk.Linked kept)
    (known : sdk.Knows router) : ∃ r, kept[router.link]? = some r := by
  obtain ⟨chain, found⟩ := known
  obtain ⟨e, same, _, member⟩ := Registry.router_configured (Registry.configured_of_router found)
  obtain rfl : router = e.router := Except.ok.inj (found.symm.trans same)
  exact ⟨_, List.getElem?_eq_getElem (linked _ member)⟩

end Sdk

-- The node behind each connection replies with the encoding of what the router in memory would answer, which
-- like every byte string has a length of less than 64 bits. Nothing is said of routers that are not configured, of how
-- two requests overlap, or of the clock.
structure Rpc.Transport.Mirrors (transport : Rpc.Transport τ) (sdk : Sdk) (kept : List Router.Fixed) : Prop where
  reply : ∀ router question r s, sdk.Knows router → kept[router.link]? = some r →
    (transport.send router.link (Rpc.request router question) s).1 = Rpc.canonicalReply question (r.value question)
  held : ∀ r ∈ kept, ∀ question, (Rpc.encodedAnswer question (r.value question)).length < UInt64.size

theorem Router.Fixed.answer_unfailing {r : Router.Fixed} (unfailing : r.refusals = []) (question : Read) :
    r.answer question = .ok (r.value question) := by
  simp only [Router.Fixed.answer, unfailing, List.find?_nil]

theorem mirrors_alike (now : UInt64) {sdk : Sdk} {kept : List Router.Fixed} {transport : Rpc.Transport τ}
    (unfailing : ∀ r ∈ kept, r.refusals = []) (linked : sdk.Linked kept) (mirrors : transport.Mirrors sdk kept) :
    transport.backend.Alike (Link.backend now) sdk.Knows fun _ links => links = kept.map .fixed := by
  have memory : ∀ router question r, kept[router.link]? = some r →
      Link.answer router question (kept.map .fixed) = (.ok (r.value question), kept.map .fixed) := by
    intro router question r place
    have answered := Router.Fixed.answer_unfailing (unfailing r (List.mem_of_getElem? place)) question
    simp only [Link.answer, List.getElem?_map, place, Option.map_some, answered]
  have understood : ∀ router question r t, sdk.Knows router → kept[router.link]? = some r →
      (transport.backend.answer router question t).1 = .ok (r.value question) := by
    intro router question r t known place
    have held := mirrors.held r (List.mem_of_getElem? place) question
    have canonical := Rpc.answer_canonical question (r.value question) held
    rw [← mirrors.reply router question r t known place] at canonical
    exact canonical
  constructor
  case reply =>
    rintro router question t _ known rfl
    obtain ⟨r, place⟩ := linked.known known
    exact (understood router question r t known place).trans (congrArg Prod.fst (memory router question r place)).symm
  case after =>
    rintro router question t _ known rfl
    obtain ⟨r, place⟩ := linked.known known
    exact congrArg Prod.snd (memory router question r place)
  case timing =>
    intro router one two t _ known _
    obtain ⟨r, place⟩ := linked.known known
    exact .inl ⟨_, understood router one r t known place⟩

-- A router in memory does not look at the arguments, so that one reply to each function is enough.
def Rpc.Script.ofFixed (r : Router.Fixed) : Rpc.Script :=
  let questions : List Read := [
    .connectedBridgeTokens .zero, .originAmountOut .zero [] .zero, .destinationAmountOut [] .zero,
    .amountOut .zero .zero .zero, .bridgeFee .zero .zero, .fee .zero, .bridgeAddress, .gasAmount .zero,
    .poolTokens .zero, .poolInfo .zero, .allPools, .addLiquidity .zero [], .removeLiquidity .zero .zero,
    .withdrawOne .zero .zero 0]
  ⟨questions.map fun question => (question.call, .always (Rpc.canonicalReply question (r.value question)))⟩

theorem Rpc.Script.next_ofFixed (r : Router.Fixed) (question : Read) :
    ((ofFixed r).next question.call).1 = Rpc.canonicalReply question (r.value question) := by
  cases question <;> rfl

-- Of two requests the second is always the first to come back.
def Rpc.Script.transport (scripts : List Rpc.Script) (now : UInt64) : Rpc.Transport Unit where
  send link request s := (((scripts.getD link {}).next request.function).1, s)
  timing _ _ _ _ := .secondBack
  clock s := (now, s)

theorem Rpc.Script.transport_mirrors {now : UInt64} {sdk : Sdk} {kept : List Router.Fixed}
    (held : ∀ r ∈ kept, ∀ question, (Rpc.encodedAnswer question (r.value question)).length < UInt64.size) :
    (transport (kept.map ofFixed) now).Mirrors sdk kept := by
  refine ⟨fun router question r s _ place => ?_, held⟩
  have script : (kept.map ofFixed).getD router.link {} = ofFixed r := by simp [List.getD, place]
  simp only [transport, script]
  exact next_ofFixed r question

-- The routers in memory go by what the clock shows when the operation begins.
theorem perform_overNodes (sdk : Sdk) (kept : List Router.Fixed) (unfailing : ∀ r ∈ kept, r.refusals = [])
    (linked : sdk.Linked kept) (transport : Rpc.Transport τ) (mirrors : transport.Mirrors sdk kept)
    (operation : Operation) (t : τ) :
    let memory := Link.backend (transport.clock t).1
    ((sdk.perform operation).run transport.backend t).result =
      ((sdk.perform operation).run memory (kept.map .fixed)).result ∧
    ((sdk.perform operation).run transport.backend t).events =
      ((sdk.perform operation).run memory (kept.map .fixed)).events :=
  Plan.run_alike_clocked (mirrors_alike _ unfailing linked mirrors) (sdk.perform_clockFirst operation)
    (sdk.perform_asks operation) rfl rfl rfl

theorem twoRouters_held (r : Router.Fixed) (member : r ∈ Registry.twoRouters) (question : Read) :
    (Rpc.encodedAnswer question (r.value question)).length < UInt64.size := by
  rw [Rpc.encodedAnswer, Abi.length_encodeRow]
  simp only [Registry.twoRouters, List.mem_cons, List.not_mem_nil, or_false] at member
  rcases member with rfl | rfl <;> cases question <;> dsimp only [Rpc.outputsOf, Router.Fixed.value] <;>
    exact Nat.le_of_ble_eq_true rfl

theorem perform_overNodes_twoRouters :
    let transport := Rpc.Script.transport (Registry.twoRouters.map .ofFixed) 1000
    let plan := Sdk.perform ⟨.twoChains, 600⟩ (.bridgeQuote 1 10 (.ofNat 0xA1) (.ofNat 0xA2) 100 none)
    (∀ r ∈ Registry.twoRouters, r.refusals = []) ∧ Sdk.Linked ⟨.twoChains, 600⟩ Registry.twoRouters ∧
    transport.Mirrors ⟨.twoChains, 600⟩ Registry.twoRouters ∧
    ∃ quote, (plan.run transport.backend ()).result = .ok quote ∧ quote.maxAmountOut = 75 := by
  intro transport plan
  have unfailing : ∀ r ∈ Registry.twoRouters, r.refusals = [] := by
    simp [Registry.twoRouters]
  have linked : Sdk.Linked ⟨.twoChains, 600⟩ Registry.twoRouters := by
    unfold Sdk.Linked
    decide
  have mirrors : transport.Mirrors ⟨.twoChains, 600⟩ Registry.twoRouters := Rpc.Script.transport_mirrors twoRouters_held
  refine ⟨unfailing, linked, mirrors, ?_⟩
  obtain ⟨same, _⟩ := perform_overNodes ⟨.twoChains, 600⟩ Registry.twoRouters unfailing linked transport mirrors
    (.bridgeQuote 1 10 (.ofNat 0xA1) (.ofNat 0xA2) 100 none) ()
  rw [same]
  exact ⟨_, rfl, rfl⟩

end RouteQuote
