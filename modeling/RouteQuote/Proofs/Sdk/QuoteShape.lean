import RouteQuote.Proofs.Sdk.BridgeQuote

namespace RouteQuote

theorem dueAt_val (now lifetime : UInt64) :
    (dueAt now lifetime).val = min (now.toNat + lifetime.toNat) (Nat.pow 2 64 - 1) := by
  have held : UInt64.size - 1 < Amount.size := by decide
  exact Nat.mod_eq_of_lt (Nat.lt_of_le_of_lt (Nat.min_le_right _ _) held)

-- The clock is a number of 64 bits itself, so that stopping there does not fall behind it.
theorem le_dueAt (now lifetime : UInt64) : now.toNat ≤ (dueAt now lifetime).val := by
  have clock : now.toNat < Nat.pow 2 64 := now.toNat_lt
  rw [dueAt_val]
  omega

-- The clock is read in front of everything else and then never again, or not at all when a deadline is given.
inductive ReadsFirst (backend : Backend σ) (s : σ) : Option Amount → List Event → Prop where
  | given (asked : Amount) {events : List Event} (never : ∀ now, .clocked now ∉ events) :
      ReadsFirst backend s (some asked) events
  | read {events : List Event} (never : ∀ now, .clocked now ∉ events) :
      ReadsFirst backend s none (.clocked (backend.clock s).1 :: events)

theorem readsFirst_dating {backend : Backend σ} {s : σ} {deadline : Option Amount} {events : List Event}
    (never : ∀ now, .clocked now ∉ events) : ReadsFirst backend s deadline (backend.dating deadline s ++ events) := by
  cases deadline with
  | none => exact .read never
  | some asked => exact .given asked never

namespace Sdk

variable {sdk : Sdk} {origin dest chain : ChainId} {tokenIn tokenOut : Address} {amountIn : Amount}
  {deadline : Option Amount} {backend : Backend σ} {s : σ}

-- Nothing but the router and the amount zero, or every part, with the queries of answers that the routers gave.
inductive BridgeQuoteShape (due : Amount) (said : List Exchange) : BridgeQuote → Prop where
  | routeless (routerAddress : Address) : BridgeQuoteShape due said ⟨none, none, routerAddress, .zero, none, none⟩
  | routed {originRouter destRouter : Router} {normalIn normalOut : Address} {symbols : List String} {amountIn : Amount}
      {requests : List DestRequest} {originQueries destQueries : List Query} {originQuery destQuery : Query}
      (originSaid : ⟨originRouter, .originAmountOut normalIn symbols amountIn, .ok originQueries⟩ ∈ said)
      (destSaid : ⟨destRouter, .destinationAmountOut requests normalOut, .ok destQueries⟩ ∈ said)
      (fromOrigin : originQuery ∈ originQueries) (fromDest : destQuery ∈ destQueries)
      (positive : Amount.zero < destQuery.minAmountOut) (feeAmount : Amount) (feeConfig : FeeConfig)
      (routerAddress : Address) :
      BridgeQuoteShape due said ⟨some feeAmount, some feeConfig, routerAddress, destQuery.minAmountOut,
        some { originQuery with deadline := due }, some { destQuery with deadline := due }⟩

theorem course_shape {q : Inquiry} {overlaps : Timing → Prop} {said : List Exchange} {quote : BridgeQuote}
    (course : Course q overlaps said (.ok quote)) : BridgeQuoteShape q.deadline said quote := by
  cases course with
  | connected connects rest =>
    cases rest with
    | counted origins rest =>
      cases rest with
      | routeless counted chosen =>
        rw [emptyQuote, (BestRoute.select_none origins counted chosen).1]
        exact .routeless _
      | chosen counted chosen _ fees =>
        cases fees with
        | routed feeAmount feeConfig =>
          obtain ⟨place, wins⟩ := BestRoute.select_some origins counted chosen
          obtain ⟨_, originAt, destAt, _⟩ := BestRoute.getElem?_all.mp place
          obtain ⟨_, promisedAt, promised⟩ := wins.promised
          obtain rfl := Option.some.inj (destAt.symm.trans promisedAt)
          subst promised
          exact .routed (.tail _ (.head _)) (.tail _ (.tail _ (.head _))) (List.mem_of_getElem? originAt)
            (List.mem_of_getElem? destAt) wins.positive feeAmount feeConfig _

theorem bridgeQuote_shape {quote : BridgeQuote}
    (quoted : ((sdk.bridgeQuote origin dest tokenIn tokenOut amountIn deadline).run backend s).result = .ok quote) :
    BridgeQuoteShape (deadline.getD (dueAt (backend.clock s).1 sdk.deadlineSecs))
      ((sdk.bridgeQuote origin dest tokenIn tokenOut amountIn deadline).exchanges backend s) quote := by
  obtain ⟨q, opens⟩ : ∃ q, sdk.Opens (backend.clock s).1 origin dest tokenIn tokenOut amountIn deadline q :=
    opens_of_ok quoted
  have course := bridgeQuote_course opens
  rw [quoted] at course
  rw [← opens.resolved]
  exact course_shape course

-- On chains that are not configured nothing happens at all.
theorem bridgeQuote_readsFirst (sdk : Sdk) (origin dest : ChainId) (tokenIn tokenOut : Address) (amountIn : Amount)
    (deadline : Option Amount) (backend : Backend σ) (s : σ) :
    let outcome := (sdk.bridgeQuote origin dest tokenIn tokenOut amountIn deadline).run backend s
    ReadsFirst backend s deadline outcome.events ∨ outcome.events = [] ∧ ∃ e, outcome.result = .error e := by
  intro outcome
  by_cases configured : origin ∈ sdk.registry.ids ∧ dest ∈ sdk.registry.ids
  · obtain ⟨q, opens⟩ : ∃ q, sdk.Opens (backend.clock s).1 origin dest tokenIn tokenOut amountIn deadline q :=
      opens_configured configured.1 configured.2
    have ran : outcome.events = backend.dating deadline s ++ (q.plan.run backend (backend.dated deadline s)).events := by
      simp only [outcome, run_bridgeQuote opens]
    rw [ran]
    exact .inl (readsFirst_dating (Plan.unclocked_run q.plan_plain q.plan_timeless backend _))
  · obtain ⟨chain, _, _, fails⟩ := bridgeQuote_unconfigured (Decidable.not_and_iff_not_or_not.mp configured)
      tokenIn tokenOut amountIn deadline
    refine .inr ⟨?_, .unsupportedChain chain, ?_⟩
    · simp only [outcome, fails, Plan.run]
    · simp only [outcome, fails, Plan.run]

-- A swap on a chain that is not configured may get as far as the clock, but not to a router.
theorem swapQuote_unconfigured (missing : chain ∉ sdk.registry.ids) (tokenIn tokenOut : Address) (amountIn : Amount)
    (deadline : Option Amount) :
    sdk.swapQuote chain tokenIn tokenOut amountIn deadline = .fail (.unsupportedChain chain) ∨
    sdk.swapQuote chain tokenIn tokenOut amountIn deadline =
      resolveDeadline sdk.deadlineSecs deadline >>= fun _ => .fail (.unsupportedChain chain) := by
  unfold swapQuote
  rw [Sdk.router, Registry.router_missing missing]
  rcases Registry.normalize_missing missing tokenOut with failed | kept
  · rw [failed]
    exact .inl rfl
  · rw [kept]
    rcases Registry.normalize_missing missing tokenIn with failed | kept
    · rw [failed]
      exact .inl rfl
    · rw [kept]
      exact .inr rfl

theorem swapQuote_missing (missing : chain ∉ sdk.registry.ids) (backend : Backend σ) (s : σ) :
    let outcome := (sdk.swapQuote chain tokenIn tokenOut amountIn deadline).run backend s
    outcome.result = .error (.unsupportedChain chain) ∧
      (ReadsFirst backend s deadline outcome.events ∨ outcome.events = []) := by
  intro outcome
  rcases swapQuote_unconfigured missing tokenIn tokenOut amountIn deadline with fails | fails
  · simp only [outcome, fails]
    exact ⟨rfl, .inr rfl⟩
  · simp only [outcome, fails, run_resolveDeadline]
    exact ⟨rfl, .inl (readsFirst_dating fun _ => List.not_mem_nil)⟩

-- What a swap comes down to when its chain is configured.
theorem swapQuote_opened (configured : chain ∈ sdk.registry.ids) (tokenIn tokenOut : Address) :
    ∃ router normalIn normalOut, sdk.router chain = .ok router ∧ sdk.registry.normalize chain tokenIn = .ok normalIn ∧
      sdk.registry.normalize chain tokenOut = .ok normalOut ∧
      sdk.swapQuote chain tokenIn tokenOut amountIn deadline = resolveDeadline sdk.deadlineSecs deadline >>= fun due =>
        Plan.read router (.amountOut normalIn normalOut amountIn) >>= fun answer =>
        pure ⟨router.address, answer.minAmountOut, answer.withDeadline due⟩ := by
  obtain ⟨normalOut, outFound⟩ := Registry.normalize_configured configured tokenOut
  obtain ⟨normalIn, inFound⟩ := Registry.normalize_configured configured tokenIn
  obtain ⟨entry, found, _⟩ := Registry.router_configured configured
  refine ⟨entry.router, normalIn, normalOut, found, inFound, outFound, ?_⟩
  unfold swapQuote
  rw [outFound, inFound, Sdk.router, found]
  rfl

-- The one exchange of a run on a configured chain, and what its reply makes of the quote.
inductive SwapCourse (router : Router) (normalIn normalOut : Address) (amountIn due : Amount) :
    List Exchange → Except Error SwapQuote → Prop where
  | refused (reason : String) :
      SwapCourse router normalIn normalOut amountIn due [⟨router, .amountOut normalIn normalOut amountIn, .error reason⟩]
        (.error (.contract router.chainId "getAmountOut" (.refused reason)))
  | quoted (answer : Query) :
      SwapCourse router normalIn normalOut amountIn due [⟨router, .amountOut normalIn normalOut amountIn, .ok answer⟩]
        (.ok ⟨router.address, answer.minAmountOut, { answer with deadline := due }⟩)

theorem swapQuote_course (sdk : Sdk) (chain : ChainId) (tokenIn tokenOut : Address) (amountIn : Amount)
    (deadline : Option Amount) (backend : Backend σ) (s : σ) (configured : chain ∈ sdk.registry.ids) :
    ∃ router normalIn normalOut, sdk.router chain = .ok router ∧ sdk.registry.normalize chain tokenIn = .ok normalIn ∧
      sdk.registry.normalize chain tokenOut = .ok normalOut ∧
      SwapCourse router normalIn normalOut amountIn (deadline.getD (dueAt (backend.clock s).1 sdk.deadlineSecs))
        ((sdk.swapQuote chain tokenIn tokenOut amountIn deadline).exchanges backend s)
        ((sdk.swapQuote chain tokenIn tokenOut amountIn deadline).run backend s).result := by
  obtain ⟨router, normalIn, normalOut, found, inFound, outFound, opened⟩ := swapQuote_opened configured tokenIn tokenOut
  refine ⟨router, normalIn, normalOut, found, inFound, outFound, ?_⟩
  rw [opened, exchanges_resolveDeadline, run_resolveDeadline]
  exact Plan.read_cases (P := SwapCourse router normalIn normalOut amountIn _) .refused fun answer _ => .quoted answer

theorem swapQuote_readsFirst (sdk : Sdk) (chain : ChainId) (tokenIn tokenOut : Address) (amountIn : Amount)
    (deadline : Option Amount) (backend : Backend σ) (s : σ) :
    let outcome := (sdk.swapQuote chain tokenIn tokenOut amountIn deadline).run backend s
    ReadsFirst backend s deadline outcome.events ∨ outcome.events = [] ∧ ∃ e, outcome.result = .error e := by
  intro outcome
  by_cases configured : chain ∈ sdk.registry.ids
  · obtain ⟨router, normalIn, normalOut, _, _, _, opened⟩ := swapQuote_opened configured tokenIn tokenOut
    simp only [outcome]
    rw [opened, run_resolveDeadline]
    refine .inl (readsFirst_dating fun now => Plan.unclocked_run ?_ ?_ backend _ now)
    · exact fun _ => trivial
    · exact fun _ => trivial
  · obtain ⟨failed, read | silent⟩ := swapQuote_missing configured backend s
    · exact .inl read
    · exact .inr ⟨silent, _, failed⟩

theorem swapQuote_answered {quote : SwapQuote}
    (quoted : ((sdk.swapQuote chain tokenIn tokenOut amountIn deadline).run backend s).result = .ok quote) :
    ∃ router normalIn normalOut answer,
      (sdk.swapQuote chain tokenIn tokenOut amountIn deadline).exchanges backend s =
        [⟨router, .amountOut normalIn normalOut amountIn, .ok answer⟩] ∧
      quote = ⟨router.address, answer.minAmountOut,
        { answer with deadline := deadline.getD (dueAt (backend.clock s).1 sdk.deadlineSecs) }⟩ := by
  by_cases configured : chain ∈ sdk.registry.ids
  · obtain ⟨router, normalIn, normalOut, _, _, _, course⟩ :=
      swapQuote_course sdk chain tokenIn tokenOut amountIn deadline backend s configured
    rw [quoted] at course
    generalize said : Plan.exchanges backend _ s = exchanges at course
    cases course with
    | quoted answer => exact ⟨router, normalIn, normalOut, answer, rfl, rfl⟩
  · cases (swapQuote_missing configured backend s).1.symm.trans quoted

-- A clock and a lifetime stop at the greatest number of 64 bits, and a deadline that was asked for stays as it is.
theorem quotes_shape (sdk : Sdk) (deadline : Option Amount) (backend : Backend σ) (s : σ) :
    let now := (backend.clock s).1
    let due := deadline.getD (dueAt now sdk.deadlineSecs)
    (∀ asked, deadline = some asked → due = asked) ∧
    (deadline = none → due.val = min (now.toNat + sdk.deadlineSecs.toNat) (Nat.pow 2 64 - 1) ∧ now.toNat ≤ due.val) ∧
    (∀ origin dest tokenIn tokenOut amountIn,
      let plan := sdk.bridgeQuote origin dest tokenIn tokenOut amountIn deadline
      let outcome := plan.run backend s
      (ReadsFirst backend s deadline outcome.events ∨ outcome.events = [] ∧ ∃ e, outcome.result = .error e) ∧
      ∀ quote, outcome.result = .ok quote →
      (quote.feeAmount.isSome ↔ Amount.zero < quote.maxAmountOut) ∧
      (quote.feeConfig.isSome ↔ Amount.zero < quote.maxAmountOut) ∧
      (quote.originQuery.isSome ↔ Amount.zero < quote.maxAmountOut) ∧
      (quote.destQuery.isSome ↔ Amount.zero < quote.maxAmountOut) ∧
      (∀ query, quote.originQuery = some query → ∃ router tokenIn symbols amountIn answers, ∃ answer ∈ answers,
        ⟨router, .originAmountOut tokenIn symbols amountIn, .ok answers⟩ ∈ plan.exchanges backend s ∧
        query = { answer with deadline := due }) ∧
      ∀ query, quote.destQuery = some query → query.minAmountOut = quote.maxAmountOut ∧
        ∃ router requests tokenOut answers, ∃ answer ∈ answers,
          ⟨router, .destinationAmountOut requests tokenOut, .ok answers⟩ ∈ plan.exchanges backend s ∧
          query = { answer with deadline := due }) ∧
    (∀ chain tokenIn tokenOut amountIn,
      let plan := sdk.swapQuote chain tokenIn tokenOut amountIn deadline
      let outcome := plan.run backend s
      (ReadsFirst backend s deadline outcome.events ∨ outcome.events = [] ∧ ∃ e, outcome.result = .error e) ∧
      ∀ quote, outcome.result = .ok quote →
      quote.maxAmountOut = quote.query.minAmountOut ∧ ∃ router tokenIn tokenOut answer,
        plan.exchanges backend s = [⟨router, .amountOut tokenIn tokenOut amountIn, .ok answer⟩] ∧
        quote.query = { answer with deadline := due }) := by
  intro now due
  refine ⟨?_, ?_, ?_, ?_⟩
  · rintro asked rfl
    rfl
  · rintro rfl
    exact ⟨dueAt_val now sdk.deadlineSecs, le_dueAt now sdk.deadlineSecs⟩
  · intro origin dest tokenIn tokenOut amountIn plan outcome
    refine ⟨bridgeQuote_readsFirst sdk origin dest tokenIn tokenOut amountIn deadline backend s, fun quote quoted => ?_⟩
    cases bridgeQuote_shape quoted with
    | routeless => simp
    | routed originSaid destSaid fromOrigin fromDest positive =>
      refine ⟨by simp [positive], by simp [positive], by simp [positive], by simp [positive], ?_, ?_⟩
      · rintro _ ⟨⟩
        exact ⟨_, _, _, _, _, _, fromOrigin, originSaid, rfl⟩
      · rintro _ ⟨⟩
        exact ⟨rfl, _, _, _, _, _, fromDest, destSaid, rfl⟩
  · intro chain tokenIn tokenOut amountIn plan outcome
    refine ⟨swapQuote_readsFirst sdk chain tokenIn tokenOut amountIn deadline backend s, fun quote quoted => ?_⟩
    obtain ⟨router, normalIn, normalOut, answer, said, rfl⟩ := swapQuote_answered quoted
    exact ⟨rfl, router, normalIn, normalOut, answer, said, rfl⟩

-- The latest clock there is: the lifetime adds nothing, and the deadline does not fall behind it.
theorem quotes_shape_latest : ∃ quote query,
    ((twoChains.bridgeQuote 1 10 (.ofNat 0xA1) (.ofNat 0xA2) 100 none).run (Link.backend 18446744073709551615)
      twoLinks).result = .ok quote ∧ quote.destQuery = some query ∧ query.minAmountOut = quote.maxAmountOut ∧
    query.deadline.val = 18446744073709551615 := by
  obtain ⟨_, clocked, bridged, _⟩ := quotes_shape twoChains none (Link.backend 18446744073709551615) twoLinks
  obtain ⟨_, quoted⟩ := bridged 1 10 (.ofNat 0xA1) (.ofNat 0xA2) 100
  obtain ⟨_, _, _, _, _, dests⟩ := quoted _ rfl
  obtain ⟨promised, _, _, _, _, answer, _, _, same⟩ := dests _ rfl
  exact ⟨_, _, rfl, rfl, promised, (clocked rfl).1⟩

end Sdk

end RouteQuote
