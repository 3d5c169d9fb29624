import RouteQuote.Proofs.Chain.Registry
import RouteQuote.Proofs.Sdk.QuoteShape
import RouteQuote.Proofs.Sdk.Transactions

namespace RouteQuote

-- The tokens that a question names as what goes in and what comes out.
def Read.tokenIn? : Read → Option Address
  | .originAmountOut tokenIn _ _ | .amountOut tokenIn _ _ => some tokenIn
  | _ => none

def Read.tokenOut? : Read → Option Address
  | .connectedBridgeTokens tokenOut | .destinationAmountOut _ tokenOut | .amountOut _ tokenOut _ => some tokenOut
  | _ => none

namespace Sdk

-- What was built and then overridden so often, the latest override first; lifetimes may be set in between.
inductive Reached : List (ChainId × Address) → Sdk → Prop where
  | made {chains : List ChainId} {routers : List Router} {sdk : Sdk} (built : ofRouters chains routers = .ok sdk) :
      Reached [] sdk
  | overridden {overrides : List (ChainId × Address)} {before after : Sdk} {chain : ChainId} {token : Address}
      (reached : Reached overrides before) (set : before.withNativeToken chain token = .ok after) :
      Reached ((chain, token) :: overrides) after
  | timed {overrides : List (ChainId × Address)} {sdk : Sdk} (reached : Reached overrides sdk) (secs : UInt64) :
      Reached overrides (sdk.withDeadlineSecs secs)

-- The latest override for the chain, and the sentinel when there was none.
def configuredNative (overrides : List (ChainId × Address)) (chain : ChainId) : Address :=
  (Keyed.get? chain overrides).getD .sentinel

variable {sdk : Sdk} {overrides : List (ChainId × Address)} {chain : ChainId} {token : Address}

theorem entry_made {chains : List ChainId} {routers : List Router} {e : ChainEntry}
    (built : ofRouters chains routers = .ok sdk) (found : sdk.registry.entry chain = .ok e) : e.nativeToken = .sentinel := by
  unfold ofRouters Registry.ofRouters at built
  split at built
  · cases built
    have member := Keyed.mem_ofList (Registry.mem_of_entry found)
    obtain ⟨_, same⟩ := List.of_mem_zip member
    obtain ⟨_, _, rfl⟩ := List.mem_map.mp same
    rfl
  · cases built

theorem withNativeToken_configured (configured : chain ∈ sdk.registry.ids) (token : Address) :
    sdk.withNativeToken chain token = .ok { sdk with registry := sdk.registry.withCoin chain token } := by
  unfold withNativeToken
  rw [Registry.setNativeToken_configured configured]

theorem withNativeToken_missing (missing : chain ∉ sdk.registry.ids) (token : Address) :
    sdk.withNativeToken chain token = .error (.unsupportedChain chain) := by
  unfold withNativeToken
  rw [Registry.setNativeToken_missing missing]

theorem entry_overridden {after : Sdk} {other : ChainId} {e : ChainEntry}
    (set : sdk.withNativeToken chain token = .ok after) (found : after.registry.entry other = .ok e) :
    ∃ before, sdk.registry.entry other = .ok before ∧ e.nativeToken = if chain = other then token else before.nativeToken := by
  by_cases configured : chain ∈ sdk.registry.ids
  · rw [withNativeToken_configured configured] at set
    cases set
    rw [Registry.entry_withCoin] at found
    cases there : sdk.registry.entry other with
    | error fault =>
      rw [there] at found
      cases found
    | ok before =>
      rw [there] at found
      cases found
      refine ⟨before, rfl, ?_⟩
      split <;> rfl
  · rw [withNativeToken_missing configured] at set
    cases set

-- By induction on the overrides: the latest one for a chain decides, and the others leave the chain alone.
theorem entry_reached (reached : Reached overrides sdk) {e : ChainEntry} (found : sdk.registry.entry chain = .ok e) :
    e.nativeToken = configuredNative overrides chain := by
  induction reached generalizing e with
  | made built => exact entry_made built found
  | timed reached secs ih => exact ih found
  | @overridden overrides before after own token reached set ih =>
    obtain ⟨old, there, native⟩ := entry_overridden set found
    rw [native, ih there, configuredNative, configuredNative, Keyed.get?_cons]
    by_cases same : own = chain <;> simp [same]

theorem nativeToken_reached (reached : Reached overrides sdk) (configured : chain ∈ sdk.registry.ids) :
    sdk.registry.nativeToken chain = .ok (configuredNative overrides chain) := by
  obtain ⟨e, found, _⟩ := Registry.entry_configured configured
  rw [← entry_reached reached found, Registry.nativeToken, found]
  rfl

inductive NamesNative (overrides : List (ChainId × Address)) (chain : ChainId) : Address → Prop where
  | zero : NamesNative overrides chain .zero
  | sentinel : NamesNative overrides chain .sentinel
  | configured : NamesNative overrides chain (configuredNative overrides chain)

-- Also when the configured address is a placeholder itself.
theorem normalize_native (reached : Reached overrides sdk) (configured : chain ∈ sdk.registry.ids)
    (names : NamesNative overrides chain token) :
    sdk.registry.normalize chain token = .ok (configuredNative overrides chain) := by
  have native := nativeToken_reached reached configured
  cases names with
  | zero => exact (Registry.normalize_placeholder rfl).trans native
  | sentinel => exact (Registry.normalize_placeholder rfl).trans native
  | configured =>
    cases placeholder : (configuredNative overrides chain).isNativePlaceholder with
    | true => exact (Registry.normalize_placeholder placeholder).trans native
    | false => exact Registry.normalize_other placeholder

theorem normalize_alike {one two : Address} (reached : Reached overrides sdk) (configured : chain ∈ sdk.registry.ids)
    (first : NamesNative overrides chain one) (second : NamesNative overrides chain two) :
    sdk.registry.normalize chain one = sdk.registry.normalize chain two :=
  (normalize_native reached configured first).trans (normalize_native reached configured second).symm

-- A plan looks at its tokens only after they are normalised.
theorem bridgeQuote_congr {origin dest : ChainId} {oneIn twoIn oneOut twoOut : Address}
    {amountIn : Amount} {deadline : Option Amount}
    (sameIn : sdk.registry.normalize origin oneIn = sdk.registry.normalize origin twoIn)
    (sameOut : sdk.registry.normalize dest oneOut = sdk.registry.normalize dest twoOut) :
    sdk.bridgeQuote origin dest oneIn oneOut amountIn deadline =
      sdk.bridgeQuote origin dest twoIn twoOut amountIn deadline := by
  unfold bridgeQuote
  rw [sameIn, sameOut]

theorem swapQuote_congr {oneIn twoIn oneOut twoOut : Address} {amountIn : Amount}
    {deadline : Option Amount} (sameIn : sdk.registry.normalize chain oneIn = sdk.registry.normalize chain twoIn)
    (sameOut : sdk.registry.normalize chain oneOut = sdk.registry.normalize chain twoOut) :
    sdk.swapQuote chain oneIn oneOut amountIn deadline = sdk.swapQuote chain twoIn twoOut amountIn deadline := by
  unfold swapQuote
  rw [sameIn, sameOut]

theorem bridge_congr {recipient one two : Address} {dest : ChainId} {amount : Amount} {originQuery destQuery : Query}
    (same : sdk.registry.normalize chain one = sdk.registry.normalize chain two) :
    sdk.bridge recipient chain dest one amount originQuery destQuery =
      sdk.bridge recipient chain dest two amount originQuery destQuery := by
  unfold bridge
  rw [same]

theorem swap_congr {recipient one two : Address} {amount : Amount} {query : Query}
    (same : sdk.registry.normalize chain one = sdk.registry.normalize chain two) :
    sdk.swap chain recipient one amount query = sdk.swap chain recipient two amount query := by
  unfold swap
  rw [same]

-- An exchange in which no tokens but those of the inquiry go in and come out.
def KeepsTokens (q : Inquiry) (e : Exchange) : Prop :=
  (∀ token, e.question.tokenIn? = some token → token = q.tokenIn) ∧
    ∀ token, e.question.tokenOut? = some token → token = q.tokenOut

section

variable {q : Inquiry} {candidates : List BridgeToken} {originQueries : List Query} {most : Amount} {best : BestRoute}
  {overlaps : Timing → Prop} {timing : Timing} {said : List Exchange} {result : Except Error BridgeQuote}

theorem connectedSaid_keeps (reply : Except String (List BridgeToken)) : KeepsTokens q (q.connectedSaid reply) :=
  ⟨nofun, fun _ out => (Option.some.inj out).symm⟩

theorem originSaid_keeps (reply : Except String (List Query)) : KeepsTokens q (q.originSaid candidates reply) :=
  ⟨fun _ token => (Option.some.inj token).symm, nofun⟩

theorem destSaid_keeps (reply : Except String (List Query)) : KeepsTokens q (q.destSaid candidates originQueries reply) :=
  ⟨nofun, fun _ out => (Option.some.inj out).symm⟩

theorem fees_keep (course : FeeCourse q timing most best said result) : ∀ e ∈ said, KeepsTokens q e := by
  have bridgeFee (reply : Except String Amount) : KeepsTokens q (q.bridgeFeeSaid best reply) := ⟨nofun, nofun⟩
  have fee (reply : Except String FeeConfig) : KeepsTokens q (q.feeSaid best reply) := ⟨nofun, nofun⟩
  cases course with
  | barred => exact List.forall_mem_singleton.mpr (bridgeFee _)
  | bridgeFeeRefused | feeRefused | routed =>
    exact List.forall_mem_cons.mpr ⟨bridgeFee _, List.forall_mem_singleton.mpr (fee _)⟩

theorem dest_keeps (course : DestCourse q overlaps candidates originQueries said result) : ∀ e ∈ said, KeepsTokens q e := by
  cases course with
  | refused | miscounted | routeless => exact List.forall_mem_singleton.mpr (destSaid_keeps _)
  | chosen _ _ _ fees => exact List.forall_mem_cons.mpr ⟨destSaid_keeps _, fees_keep fees⟩

theorem origin_keeps (course : OriginCourse q overlaps candidates said result) : ∀ e ∈ said, KeepsTokens q e := by
  cases course with
  | refused | miscounted => exact List.forall_mem_singleton.mpr (originSaid_keeps _)
  | counted _ rest => exact List.forall_mem_cons.mpr ⟨originSaid_keeps _, dest_keeps rest⟩

theorem course_tokens (course : Course q overlaps said result) :
    said.head?.map Exchange.question = some (.connectedBridgeTokens q.tokenOut) ∧ ∀ e ∈ said, KeepsTokens q e := by
  cases course with
  | refused | unconnected => exact ⟨rfl, List.forall_mem_singleton.mpr (connectedSaid_keeps _)⟩
  | connected _ rest => exact ⟨rfl, List.forall_mem_cons.mpr ⟨connectedSaid_keeps _, origin_keeps rest⟩⟩

end

theorem bridgeQuote_tokens {origin dest : ChainId} {tokenIn tokenOut : Address} {amountIn : Amount}
    {deadline : Option Amount} (origins : origin ∈ sdk.registry.ids) (dests : dest ∈ sdk.registry.ids)
    (backend : Backend σ) (s : σ) : ∃ normalIn normalOut, sdk.registry.normalize origin tokenIn = .ok normalIn ∧
      sdk.registry.normalize dest tokenOut = .ok normalOut ∧
      let said := (sdk.bridgeQuote origin dest tokenIn tokenOut amountIn deadline).exchanges backend s
      said.head?.map Exchange.question = some (.connectedBridgeTokens normalOut) ∧
      ∀ e ∈ said, (∀ token, e.question.tokenIn? = some token → token = normalIn) ∧
        ∀ token, e.question.tokenOut? = some token → token = normalOut := by
  obtain ⟨q, opens⟩ := opens_configured origins dests
  exact ⟨q.tokenIn, q.tokenOut, opens.normalIn, opens.normalOut, course_tokens (bridgeQuote_course opens)⟩

theorem SwapCourse.question {router : Router} {normalIn normalOut : Address} {amountIn due : Amount}
    {said : List Exchange} {result : Except Error SwapQuote}
    (course : SwapCourse router normalIn normalOut amountIn due said result) :
    said.map Exchange.question = [.amountOut normalIn normalOut amountIn] := by
  cases course <;> rfl

theorem swapQuote_question {tokenIn tokenOut : Address} {amountIn : Amount} {deadline : Option Amount}
    (configured : chain ∈ sdk.registry.ids) (backend : Backend σ) (s : σ) : ∃ normalIn normalOut,
      sdk.registry.normalize chain tokenIn = .ok normalIn ∧ sdk.registry.normalize chain tokenOut = .ok normalOut ∧
      ((sdk.swapQuote chain tokenIn tokenOut amountIn deadline).exchanges backend s).map Exchange.question =
        [.amountOut normalIn normalOut amountIn] := by
  obtain ⟨_, normalIn, normalOut, _, inFound, outFound, course⟩ :=
    swapQuote_course sdk chain tokenIn tokenOut amountIn deadline backend s configured
  exact ⟨normalIn, normalOut, inFound, outFound, course.question⟩

theorem normalize_apart (noZero : token ≠ .zero) (noSentinel : token ≠ .sentinel) {normal : Address}
    (normalised : sdk.registry.normalize chain token = .ok normal) : normal = token := by
  have other : token.isNativePlaceholder = false := by simp [Address.isNativePlaceholder, noZero, noSentinel]
  exact Except.ok.inj (normalised.symm.trans (Registry.normalize_other other))

-- The same token, or two names of the coin of a configured chain.
def Interchangeable (sdk : Sdk) (overrides : List (ChainId × Address)) (chain : ChainId) (one two : Address) : Prop :=
  one = two ∨ chain ∈ sdk.registry.ids ∧ NamesNative overrides chain one ∧ NamesNative overrides chain two

theorem Interchangeable.normalize {one two : Address} (alike : sdk.Interchangeable overrides chain one two)
    (reached : Reached overrides sdk) : sdk.registry.normalize chain one = sdk.registry.normalize chain two := by
  rcases alike with rfl | ⟨configured, first, second⟩
  · rfl
  · exact normalize_alike reached configured first second

theorem native_interchange (reached : Reached overrides sdk) (backend : Backend σ) (s : σ) :
    (∀ origin dest oneIn twoIn oneOut twoOut amountIn deadline,
      sdk.Interchangeable overrides origin oneIn twoIn → sdk.Interchangeable overrides dest oneOut twoOut →
      let one := sdk.bridgeQuote origin dest oneIn oneOut amountIn deadline
      let two := sdk.bridgeQuote origin dest twoIn twoOut amountIn deadline
      one.run backend s = two.run backend s ∧ one.exchanges backend s = two.exchanges backend s) ∧
    (∀ chain oneIn twoIn oneOut twoOut amountIn deadline,
      sdk.Interchangeable overrides chain oneIn twoIn → sdk.Interchangeable overrides chain oneOut twoOut →
      let one := sdk.swapQuote chain oneIn oneOut amountIn deadline
      let two := sdk.swapQuote chain twoIn twoOut amountIn deadline
      one.run backend s = two.run backend s ∧ one.exchanges backend s = two.exchanges backend s) ∧
    (∀ recipient origin dest one two amount originQuery destQuery, sdk.Interchangeable overrides origin one two →
      sdk.bridge recipient origin dest one amount originQuery destQuery =
        sdk.bridge recipient origin dest two amount originQuery destQuery) ∧
    (∀ chain recipient one two amount query, sdk.Interchangeable overrides chain one two →
      sdk.swap chain recipient one amount query = sdk.swap chain recipient two amount query) ∧
    (∀ origin dest tokenIn tokenOut amountIn deadline, origin ∈ sdk.registry.ids → dest ∈ sdk.registry.ids →
      let said := (sdk.bridgeQuote origin dest tokenIn tokenOut amountIn deadline).exchanges backend s
      (tokenIn ≠ .zero → tokenIn ≠ .sentinel →
        ∀ e ∈ said, ∀ token, e.question.tokenIn? = some token → token = tokenIn) ∧
      (tokenOut ≠ .zero → tokenOut ≠ .sentinel →
        said.head?.map Exchange.question = some (.connectedBridgeTokens tokenOut) ∧
        ∀ e ∈ said, ∀ token, e.question.tokenOut? = some token → token = tokenOut)) ∧
    (∀ chain tokenIn tokenOut amountIn deadline, chain ∈ sdk.registry.ids → ∃ normalIn normalOut,
      ((sdk.swapQuote chain tokenIn tokenOut amountIn deadline).exchanges backend s).map Exchange.question =
        [.amountOut normalIn normalOut amountIn] ∧
      (tokenIn ≠ .zero → tokenIn ≠ .sentinel → normalIn = tokenIn) ∧
      (tokenOut ≠ .zero → tokenOut ≠ .sentinel → normalOut = tokenOut)) ∧
    (∀ chain token, chain ∈ sdk.registry.ids → token ≠ .zero → token ≠ .sentinel → ∃ router,
      sdk.router chain = .ok router ∧
      (∀ recipient dest amount originQuery destQuery,
        sdk.bridge recipient chain dest token amount originQuery destQuery = .ok ⟨router.address, Abi.bridge.calldata
          (recipient, Amount.ofWord dest, token, amount, Abi.ofQuery originQuery, Abi.ofQuery destQuery, ())⟩) ∧
      ∀ recipient amount query, sdk.swap chain recipient token amount query =
        .ok ⟨router.address, Abi.swap.calldata (recipient, token, amount, Abi.ofQuery query, ())⟩) := by
  refine ⟨?_, ?_, ?_, ?_, ?_, ?_, ?_⟩
  · intro origin dest oneIn twoIn oneOut twoOut amountIn deadline alikeIn alikeOut one two
    have same : one = two := bridgeQuote_congr (alikeIn.normalize reached) (alikeOut.normalize reached)
    rw [same]
    exact ⟨rfl, rfl⟩
  · intro chain oneIn twoIn oneOut twoOut amountIn deadline alikeIn alikeOut one two
    have same : one = two := swapQuote_congr (alikeIn.normalize reached) (alikeOut.normalize reached)
    rw [same]
    exact ⟨rfl, rfl⟩
  · intro recipient origin dest one two amount originQuery destQuery alike
    exact bridge_congr (alike.normalize reached)
  · intro chain recipient one two amount query alike
    exact swap_congr (alike.normalize reached)
  · intro origin dest tokenIn tokenOut amountIn deadline origins dests said
    obtain ⟨normalIn, normalOut, inFound, outFound, first, tokens⟩ := bridgeQuote_tokens origins dests backend s
    refine ⟨fun noZero noSentinel => ?_, fun noZero noSentinel => ?_⟩
    · obtain rfl := normalize_apart noZero noSentinel inFound
      exact fun e member => (tokens e member).1
    · obtain rfl := normalize_apart noZero noSentinel outFound
      exact ⟨first, fun e member => (tokens e member).2⟩
  · intro chain tokenIn tokenOut amountIn deadline configured
    obtain ⟨normalIn, normalOut, inFound, outFound, asked⟩ := swapQuote_question configured backend s
    exact ⟨normalIn, normalOut, asked, fun noZero noSentinel => normalize_apart noZero noSentinel inFound,
      fun noZero noSentinel => normalize_apart noZero noSentinel outFound⟩
  · intro chain token configured noZero noSentinel
    obtain ⟨router, normal, found, normalised, bridged, swapped⟩ := transactions_configured configured token
    obtain rfl := normalize_apart noZero noSentinel normalised
    exact ⟨router, found, bridged, swapped⟩

-- The second chain's coin is overridden by the zero address, the first chain's by a token of its own.
def overriddenCoins : List (ChainId × Address) := [(10, .zero), (1, .ofNat 0xC0), (1, .sentinel)]

def overriddenChains : Sdk where
  registry := ⟨[(1, ⟨⟨0, 1, .ofNat 0x1A⟩, .ofNat 0xC0⟩), (10, ⟨⟨1, 10, .ofNat 0x2B⟩, .zero⟩)]⟩

theorem overriddenChains_reached : Reached overriddenCoins overriddenChains := by
  have built : ofRouters [1, 10] [⟨0, 1, .ofNat 0x1A⟩, ⟨1, 10, .ofNat 0x2B⟩] = .ok twoChains := rfl
  exact .overridden (.overridden (.overridden (.made built) rfl) rfl) rfl

theorem native_interchange_overridden : Reached overriddenCoins overriddenChains ∧
    let one := overriddenChains.bridgeQuote 1 10 .sentinel .sentinel 100 none
    let two := overriddenChains.bridgeQuote 1 10 (.ofNat 0xC0) .zero 100 none
    one.run (Link.backend 1000) twoLinks = two.run (Link.backend 1000) twoLinks ∧
    one.exchanges (Link.backend 1000) twoLinks = two.exchanges (Link.backend 1000) twoLinks := by
  refine ⟨overriddenChains_reached, ?_⟩
  obtain ⟨bridged, _⟩ := native_interchange overriddenChains_reached (Link.backend 1000) twoLinks
  have origins : overriddenChains.Interchangeable overriddenCoins 1 .sentinel (.ofNat 0xC0) :=
    .inr ⟨by decide, .sentinel, .configured⟩
  have dests : overriddenChains.Interchangeable overriddenCoins 10 .sentinel .zero := .inr ⟨by decide, .sentinel, .zero⟩
  exact bridged 1 10 .sentinel (.ofNat 0xC0) .sentinel .zero 100 none origins dests

end Sdk

end RouteQuote
