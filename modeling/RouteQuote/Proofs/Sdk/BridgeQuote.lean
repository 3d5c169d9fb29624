import Mathlib.Logic.ExistsUnique
import RouteQuote.Proofs.Sdk.BridgeCourse
import RouteQuote.Router.Script

namespace RouteQuote

variable {q : Inquiry} {overlaps : Timing → Prop} {timing : Timing} {candidates : List BridgeToken}
  {originQueries : List Query} {most : Amount} {best : BestRoute} {said : List Exchange} {result : Except Error BridgeQuote}

-- Nothing is chosen exactly when nothing is promised.
theorem BestRoute.select_eq_none {destQueries : List Query} {route : Option BestRoute}
    (origins : originQueries.length = candidates.length) (dests : destQueries.length = candidates.length)
    (chosen : select candidates originQueries destQueries = (most, route)) :
    route = none ↔ ∀ d ∈ destQueries, d.minAmountOut = .zero := by
  cases route with
  | none => exact ⟨fun _ => (select_none origins dests chosen).2, fun _ => rfl⟩
  | some best =>
    obtain ⟨_, wins⟩ := select_some origins dests chosen
    obtain ⟨d, found, same⟩ := wins.promised
    refine ⟨nofun, fun zeros => ?_⟩
    have zero := zeros d (List.mem_of_getElem? found)
    rw [same] at zero
    exact absurd wins.positive (zero ▸ Fin.lt_irrefl _)

-- What the end of a quote owes to the two fees that are asked for together, and to how the questions overlap.
structure PairLaw (q : Inquiry) (timing : Timing) (pair : List Exchange) (result : Except Error BridgeQuote) : Prop where
  alone : pair.length = 1 ↔ timing = .atOnce ∧ ∃ e reason, pair[0]? = some e ∧ e.reply = .error reason
  refused : ∀ e ∈ pair, ∀ reason, e.reply = .error reason → ∃ other ∈ pair, ∃ why, other.reply = .error why ∧
    result = .error (.contract q.dest other.question.call (.refused why))
  bridgeFeeFirst : timing ≠ .secondBack → ∀ e reason, pair[0]? = some e → e.reply = .error reason →
    result = .error (.contract q.dest e.question.call (.refused reason))
  feeFirst : timing = .secondBack → ∀ e reason, pair[1]? = some e → e.reply = .error reason →
    result = .error (.contract q.dest e.question.call (.refused reason))
  answered : (∀ e ∈ pair, ∀ reason, e.reply ≠ .error reason) →
    pair.length = 2 ∧ ∃ quote, result = .ok quote ∧ quote.hasRoute = true

namespace FeeCourse

theorem order (course : FeeCourse q timing most best said result) :
    said.map Exchange.callee <+: [(q.destRouter, "calculateBridgeFee"), (q.destRouter, "fee")] := by
  cases course <;> exact ⟨_, rfl⟩

theorem nonempty (course : FeeCourse q timing most best said result) : said ≠ [] := by
  cases course <;> exact List.cons_ne_nil _ _

theorem law (course : FeeCourse q timing most best said result) (named : q.destRouter.chainId = q.dest) :
    PairLaw q timing said result := by
  cases course with
  | barred early reason =>
    constructor
    case alone => exact ⟨fun _ => ⟨early, _, reason, rfl, rfl⟩, fun _ => rfl⟩
    case refused => exact fun _ _ _ _ => ⟨_, List.mem_singleton_self _, reason, rfl, by rw [named]; rfl⟩
    case bridgeFeeFirst =>
      rintro _ _ _ ⟨⟩ ⟨⟩
      rw [named]
      rfl
    case feeFirst => exact fun late => nomatch early.symm.trans late
    case answered => exact fun answered => absurd rfl (answered _ (List.mem_singleton_self _) reason)
  | bridgeFeeRefused pending reason counts =>
    constructor
    case alone => exact ⟨nofun, fun early => absurd early.1 pending⟩
    case refused => exact fun _ _ _ _ => ⟨_, List.mem_cons_self, reason, rfl, by rw [named]; rfl⟩
    case bridgeFeeFirst =>
      rintro _ _ _ ⟨⟩ ⟨⟩
      rw [named]
      rfl
    case feeFirst =>
      rintro late _ why ⟨⟩ refused
      obtain ⟨feeConfig, rfl⟩ := counts late
      cases refused
    case answered => exact fun answered => absurd rfl (answered _ List.mem_cons_self reason)
  | feeRefused reason counts =>
    constructor
    case alone =>
      refine ⟨nofun, ?_⟩
      rintro ⟨early, _, why, ⟨⟩, refused⟩
      obtain ⟨feeAmount, rfl⟩ := counts (early ▸ nofun)
      cases refused
    case refused => exact fun _ _ _ _ => ⟨_, .tail _ (.head _), reason, rfl, by rw [named]; rfl⟩
    case bridgeFeeFirst =>
      rintro soon _ why ⟨⟩ refused
      obtain ⟨feeAmount, rfl⟩ := counts soon
      cases refused
    case feeFirst =>
      rintro _ _ _ ⟨⟩ ⟨⟩
      rw [named]
      rfl
    case answered => exact fun answered => absurd rfl (answered _ (.tail _ (.head _)) reason)
  | routed feeAmount feeConfig =>
    have bothAnswered : ∀ e ∈ [q.bridgeFeeSaid best (.ok feeAmount), q.feeSaid best (.ok feeConfig)], ∀ reason,
        e.reply ≠ .error reason := by
      intro e member reason
      rcases List.mem_cons.mp member with rfl | member
      · exact nofun
      · obtain rfl := List.mem_singleton.mp member
        exact nofun
    constructor
    case alone => exact ⟨nofun, fun ⟨_, _, reason, first, refused⟩ =>
      absurd refused (bothAnswered _ (List.mem_of_getElem? first) reason)⟩
    case refused => exact fun e member reason refused => absurd refused (bothAnswered e member reason)
    case bridgeFeeFirst =>
      exact fun _ e reason first refused => absurd refused (bothAnswered e (List.mem_of_getElem? first) reason)
    case feeFirst =>
      exact fun _ e reason second refused => absurd refused (bothAnswered e (List.mem_of_getElem? second) reason)
    case answered => exact fun _ => ⟨rfl, _, rfl, rfl⟩

end FeeCourse

namespace DestCourse

theorem order (course : DestCourse q overlaps candidates originQueries said result) : said.map Exchange.callee <+: [
    (q.destRouter, "getDestinationAmountOut"), (q.destRouter, "calculateBridgeFee"), (q.destRouter, "fee")] := by
  cases course with
  | refused | miscounted | routeless => exact ⟨_, rfl⟩
  | chosen _ _ _ fees => exact List.cons_prefix_cons.mpr ⟨rfl, fees.order⟩

theorem nonempty (course : DestCourse q overlaps candidates originQueries said result) : said ≠ [] := by
  cases course <;> exact List.cons_ne_nil _ _

-- The last stage is reached only with a promise.
theorem length_eq_one (course : DestCourse q overlaps candidates originQueries said result)
    (origins : originQueries.length = candidates.length) : said.length = 1 ↔
      (∃ reason, said[0]? = some (q.destSaid candidates originQueries (.error reason))) ∨
      ∃ destQueries, said[0]? = some (q.destSaid candidates originQueries (.ok destQueries)) ∧
        (destQueries.length ≠ candidates.length ∨ ∀ d ∈ destQueries, d.minAmountOut = .zero) := by
  cases course with
  | refused reason => exact ⟨fun _ => .inl ⟨reason, rfl⟩, fun _ => rfl⟩
  | miscounted wrong => exact ⟨fun _ => .inr ⟨_, rfl, .inl wrong⟩, fun _ => rfl⟩
  | routeless counted chosen =>
    exact ⟨fun _ => .inr ⟨_, rfl, .inr ((BestRoute.select_eq_none origins counted chosen).mp rfl)⟩, fun _ => rfl⟩
  | chosen counted chosen _ fees =>
    constructor
    · intro one
      exact absurd (List.eq_nil_of_length_eq_zero (Nat.succ.inj one)) fees.nonempty
    · rintro (⟨reason, first⟩ | ⟨destQueries, first, wrong | zeros⟩)
      · simp at first
      · obtain rfl : _ = destQueries := by simpa using first
        exact absurd counted wrong
      · obtain rfl : _ = destQueries := by simpa using first
        exact nomatch (BestRoute.select_eq_none origins counted chosen).mpr zeros

theorem refused_first (course : DestCourse q overlaps candidates originQueries said result) {e : Exchange}
    {reason : String} (member : e ∈ said.take 1) (refusal : e.reply = .error reason) :
    said.getLast? = some e ∧ result = .error (Plan.refusal e.router e.question reason) := by
  cases course with
  | refused =>
    obtain rfl := List.mem_singleton.mp member
    cases refusal
    exact ⟨rfl, rfl⟩
  | miscounted | routeless | chosen =>
    obtain rfl := List.mem_singleton.mp member
    cases refusal

theorem miscounted_result (course : DestCourse q overlaps candidates originQueries said result)
    {destQueries : List Query} (first : said[0]? = some (q.destSaid candidates originQueries (.ok destQueries)))
    (wrong : destQueries.length ≠ candidates.length) : result = .error (.contract q.dest "getDestinationAmountOut"
      (.countMismatch destQueries.length candidates.length)) := by
  cases course with
  | refused => simp at first
  | miscounted =>
    obtain rfl : _ = destQueries := by simpa using first
    rfl
  | routeless counted | chosen counted =>
    obtain rfl : _ = destQueries := by simpa using first
    exact absurd counted wrong

theorem unpromising_result (course : DestCourse q overlaps candidates originQueries said result)
    (origins : originQueries.length = candidates.length) {destQueries : List Query}
    (first : said[0]? = some (q.destSaid candidates originQueries (.ok destQueries)))
    (counted : destQueries.length = candidates.length) (zeros : ∀ d ∈ destQueries, d.minAmountOut = .zero) :
    result = .ok ⟨none, none, q.originRouter.address, .zero, none, none⟩ := by
  cases course with
  | refused => simp at first
  | miscounted wrong =>
    obtain rfl : _ = destQueries := by simpa using first
    exact absurd counted wrong
  | routeless _ chosen =>
    rw [(BestRoute.select_none origins (by assumption) chosen).1, Sdk.emptyQuote]
  | chosen counted chosen =>
    obtain rfl : _ = destQueries := by simpa using first
    exact nomatch (BestRoute.select_eq_none origins counted chosen).mpr zeros

theorem pair_law (course : DestCourse q overlaps candidates originQueries said result)
    (named : q.destRouter.chainId = q.dest) (beyond : 1 < said.length) :
    ∃ timing, overlaps timing ∧ PairLaw q timing (said.drop 1) result := by
  cases course with
  | refused | miscounted | routeless => exact absurd beyond (Nat.lt_irrefl 1)
  | chosen _ _ overlap fees => exact ⟨_, overlap, fees.law named⟩

end DestCourse

namespace OriginCourse

theorem order (course : OriginCourse q overlaps candidates said result) : said.map Exchange.callee <+: [
    (q.originRouter, "getOriginAmountOut"), (q.destRouter, "getDestinationAmountOut"),
    (q.destRouter, "calculateBridgeFee"), (q.destRouter, "fee")] := by
  cases course with
  | refused | miscounted => exact ⟨_, rfl⟩
  | counted _ rest => exact List.cons_prefix_cons.mpr ⟨rfl, rest.order⟩

theorem nonempty (course : OriginCourse q overlaps candidates said result) : said ≠ [] := by
  cases course <;> exact List.cons_ne_nil _ _

theorem length_eq_one (course : OriginCourse q overlaps candidates said result) : said.length = 1 ↔
    (∃ reason, said[0]? = some (q.originSaid candidates (.error reason))) ∨
    ∃ originQueries, said[0]? = some (q.originSaid candidates (.ok originQueries)) ∧
      originQueries.length ≠ candidates.length := by
  cases course with
  | refused reason => exact ⟨fun _ => .inl ⟨reason, rfl⟩, fun _ => rfl⟩
  | miscounted wrong => exact ⟨fun _ => .inr ⟨_, rfl, wrong⟩, fun _ => rfl⟩
  | counted counted rest =>
    constructor
    · intro one
      exact absurd (List.eq_nil_of_length_eq_zero (Nat.succ.inj one)) rest.nonempty
    · rintro (⟨reason, first⟩ | ⟨originQueries, first, wrong⟩)
      · simp at first
      · obtain rfl : _ = originQueries := by simpa using first
        exact absurd counted wrong

theorem refused_first (course : OriginCourse q overlaps candidates said result) {e : Exchange} {reason : String}
    (member : e ∈ said.take 2) (refusal : e.reply = .error reason) :
    said.getLast? = some e ∧ result = .error (Plan.refusal e.router e.question reason) := by
  cases course with
  | refused =>
    obtain rfl := List.mem_singleton.mp member
    cases refusal
    exact ⟨rfl, rfl⟩
  | miscounted =>
    obtain rfl := List.mem_singleton.mp member
    cases refusal
  | counted _ rest =>
    rcases List.mem_cons.mp member with rfl | later
    · cases refusal
    · obtain ⟨last, failed⟩ := rest.refused_first later refusal
      exact ⟨List.getLast?_cons_of_ne_nil rest.nonempty ▸ last, failed⟩

theorem miscounted_result (course : OriginCourse q overlaps candidates said result)
    (first : said[0]? = some (q.originSaid candidates (.ok originQueries)))
    (wrong : originQueries.length ≠ candidates.length) : result = .error (.contract q.origin "getOriginAmountOut"
      (.countMismatch originQueries.length candidates.length)) := by
  cases course with
  | refused => simp at first
  | miscounted =>
    obtain rfl : _ = originQueries := by simpa using first
    rfl
  | counted counted =>
    obtain rfl : _ = originQueries := by simpa using first
    exact absurd counted wrong

-- After a second reply that has a query for each candidate.
theorem rest (course : OriginCourse q overlaps candidates said result)
    (first : said[0]? = some (q.originSaid candidates (.ok originQueries))) (beyond : 1 < said.length) :
    originQueries.length = candidates.length ∧ DestCourse q overlaps candidates originQueries (said.drop 1) result := by
  cases course with
  | refused | miscounted => exact absurd beyond (Nat.lt_irrefl 1)
  | counted counted rest =>
    obtain rfl : _ = originQueries := by simpa using first
    exact ⟨counted, rest⟩

end OriginCourse

-- The functions in the order in which they are called, as far as the course goes.
def Sdk.callOrder (originRouter destRouter : Router) : List (Router × String) := [
  (destRouter, "getConnectedBridgeTokens"), (originRouter, "getOriginAmountOut"),
  (destRouter, "getDestinationAmountOut"), (destRouter, "calculateBridgeFee"), (destRouter, "fee")]

namespace Course

theorem order (course : Course q overlaps said result) :
    said.map Exchange.callee <+: Sdk.callOrder q.originRouter q.destRouter := by
  cases course with
  | refused | unconnected => exact ⟨_, rfl⟩
  | connected _ rest => exact List.cons_prefix_cons.mpr ⟨rfl, rest.order⟩

theorem nonempty (course : Course q overlaps said result) : said ≠ [] := by
  cases course <;> exact List.cons_ne_nil _ _

theorem once (course : Course q overlaps said result) : (said.map fun e => e.question.call).Nodup := by
  have names : (said.map fun e => e.question.call) = (said.map Exchange.callee).map Prod.snd := by
    simp [Exchange.callee, Function.comp_def]
  have distinct : ((Sdk.callOrder q.originRouter q.destRouter).map Prod.snd).Nodup := by
    simp [Sdk.callOrder]
  rw [names]
  exact distinct.sublist (course.order.sublist.map _)

theorem afterFirst (course : Course q overlaps said result) :
    said.length = 1 ↔ (∃ reason, said[0]? = some (q.connectedSaid (.error reason))) ∨
      said[0]? = some (q.connectedSaid (.ok [])) := by
  cases course with
  | refused reason => exact ⟨fun _ => .inl ⟨reason, rfl⟩, fun _ => rfl⟩
  | unconnected => exact ⟨fun _ => .inr rfl, fun _ => rfl⟩
  | connected connects rest =>
    constructor
    · intro one
      exact absurd (List.eq_nil_of_length_eq_zero (Nat.succ.inj one)) rest.nonempty
    · rintro (⟨reason, first⟩ | first)
      · simp at first
      · exact absurd (by simpa using first) connects

-- After a first reply that names some token.
theorem rest {connected : List BridgeToken} (course : Course q overlaps said result)
    (first : said[0]? = some (q.connectedSaid (.ok connected))) (beyond : 1 < said.length) :
    connected ≠ [] ∧ OriginCourse q overlaps (routable connected) (said.drop 1) result := by
  cases course with
  | refused | unconnected => exact absurd beyond (Nat.lt_irrefl 1)
  | connected connects rest =>
    obtain rfl : _ = connected := by simpa using first
    exact ⟨connects, rest⟩

-- As far as the third call, after two replies that let the quote go on.
theorem restOfRest {connected : List BridgeToken} (course : Course q overlaps said result)
    (first : said[0]? = some (q.connectedSaid (.ok connected)))
    (second : said[1]? = some (q.originSaid (routable connected) (.ok originQueries))) (beyond : 2 < said.length) :
    originQueries.length = (routable connected).length ∧
      DestCourse q overlaps (routable connected) originQueries (said.drop 2) result := by
  obtain ⟨_, rest⟩ := course.rest first (by omega)
  obtain ⟨counted, last⟩ := rest.rest (by simpa using second) (by simp; omega)
  exact ⟨counted, by simpa using last⟩

theorem beyondFirst (course : Course q overlaps said result) (beyond : 1 < said.length) :
    ∃ connected, said[0]? = some (q.connectedSaid (.ok connected)) := by
  cases course with
  | refused | unconnected => exact absurd beyond (Nat.lt_irrefl 1)
  | connected => exact ⟨_, rfl⟩

theorem beyondSecond (course : Course q overlaps said result) (beyond : 2 < said.length) : ∃ connected originQueries,
    said[0]? = some (q.connectedSaid (.ok connected)) ∧
    said[1]? = some (q.originSaid (routable connected) (.ok originQueries)) := by
  cases course with
  | refused | unconnected => simp at beyond
  | connected connects rest =>
    cases rest with
    | refused | miscounted => exact absurd beyond (Nat.lt_irrefl 2)
    | counted => exact ⟨_, _, rfl, rfl⟩

theorem afterSecond (course : Course q overlaps said result) :
    said.length = 2 ↔ ∃ connected, connected ≠ [] ∧ said[0]? = some (q.connectedSaid (.ok connected)) ∧
      ((∃ reason, said[1]? = some (q.originSaid (routable connected) (.error reason))) ∨
        ∃ originQueries, said[1]? = some (q.originSaid (routable connected) (.ok originQueries)) ∧
          originQueries.length ≠ (routable connected).length) := by
  have stops {connected : List BridgeToken} (first : said[0]? = some (q.connectedSaid (.ok connected)))
      (beyond : 1 < said.length) := (course.rest first beyond).2.length_eq_one
  simp only [List.length_drop, List.getElem?_drop, Nat.add_zero] at stops
  constructor
  · intro two
    obtain ⟨connected, first⟩ := course.beyondFirst (by omega)
    obtain ⟨connects, _⟩ := course.rest first (by omega)
    exact ⟨connected, connects, first, (stops first (by omega)).mp (by omega)⟩
  · rintro ⟨connected, _, first, second⟩
    have beyond : 1 < said.length := by
      rcases second with ⟨_, second⟩ | ⟨_, second, _⟩ <;> exact (List.getElem?_eq_some_iff.mp second).1
    have one := (stops first beyond).mpr second
    omega

theorem afterThird (course : Course q overlaps said result) :
    said.length = 3 ↔ ∃ connected originQueries,
      said[0]? = some (q.connectedSaid (.ok connected)) ∧
      said[1]? = some (q.originSaid (routable connected) (.ok originQueries)) ∧
      ((∃ reason, said[2]? = some (q.destSaid (routable connected) originQueries (.error reason))) ∨
        ∃ destQueries, said[2]? = some (q.destSaid (routable connected) originQueries (.ok destQueries)) ∧
          (destQueries.length ≠ (Sdk.destRequests (routable connected) originQueries).length ∨
            ∀ d ∈ destQueries, d.minAmountOut = .zero)) := by
  have stops {connected : List BridgeToken} {originQueries : List Query}
      (first : said[0]? = some (q.connectedSaid (.ok connected)))
      (second : said[1]? = some (q.originSaid (routable connected) (.ok originQueries))) (beyond : 2 < said.length) := by
    obtain ⟨counted, last⟩ := course.restOfRest first second beyond
    have asMany : (Sdk.destRequests (routable connected) originQueries).length = (routable connected).length := by
      simp [Sdk.destRequests, counted]
    have stops := last.length_eq_one counted
    rw [← asMany, List.length_drop, List.getElem?_drop] at stops
    exact stops
  constructor
  · intro three
    obtain ⟨connected, originQueries, first, second⟩ := course.beyondSecond (by omega)
    exact ⟨connected, originQueries, first, second, (stops first second (by omega)).mp (by omega)⟩
  · rintro ⟨connected, originQueries, first, second, third⟩
    have beyond : 2 < said.length := by
      rcases third with ⟨_, third⟩ | ⟨_, third, _⟩ <;> exact (List.getElem?_eq_some_iff.mp third).1
    have one := (stops first second beyond).mpr third
    omega

-- A refusal among the first three replies is the last thing that is said, and what the quote fails with.
theorem refused_last (course : Course q overlaps said result) {e : Exchange} {reason : String} (member : e ∈ said.take 3)
    (refusal : e.reply = .error reason) :
    said.getLast? = some e ∧ result = .error (Plan.refusal e.router e.question reason) := by
  cases course with
  | refused =>
    obtain rfl := List.mem_singleton.mp member
    cases refusal
    exact ⟨rfl, rfl⟩
  | unconnected =>
    obtain rfl := List.mem_singleton.mp member
    cases refusal
  | connected _ rest =>
    rcases List.mem_cons.mp member with rfl | later
    · cases refusal
    · obtain ⟨last, failed⟩ := rest.refused_first later refusal
      exact ⟨List.getLast?_cons_of_ne_nil rest.nonempty ▸ last, failed⟩

theorem unconnected_result (course : Course q overlaps said result) (none : said[0]? = some (q.connectedSaid (.ok []))) :
    result = .error (.noRoute q.origin q.dest q.tokenOut) := by
  cases course with
  | refused => simp at none
  | unconnected => rfl
  | connected connects => exact absurd (by simpa using none) connects

theorem originMiscounted_result {connected : List BridgeToken} (course : Course q overlaps said result)
    (first : said[0]? = some (q.connectedSaid (.ok connected)))
    (second : said[1]? = some (q.originSaid (routable connected) (.ok originQueries)))
    (wrong : originQueries.length ≠ (routable connected).length) :
    result = .error (.contract q.origin "getOriginAmountOut"
      (.countMismatch originQueries.length (routable connected).length)) := by
  obtain ⟨_, rest⟩ := course.rest first (List.getElem?_eq_some_iff.mp second).1
  exact rest.miscounted_result (by simpa using second) wrong

theorem destMiscounted_result {connected : List BridgeToken} {destQueries : List Query}
    (course : Course q overlaps said result) (first : said[0]? = some (q.connectedSaid (.ok connected)))
    (second : said[1]? = some (q.originSaid (routable connected) (.ok originQueries)))
    (third : said[2]? = some (q.destSaid (routable connected) originQueries (.ok destQueries)))
    (wrong : destQueries.length ≠ (routable connected).length) :
    result = .error (.contract q.dest "getDestinationAmountOut"
      (.countMismatch destQueries.length (routable connected).length)) := by
  obtain ⟨_, rest⟩ := course.restOfRest first second (List.getElem?_eq_some_iff.mp third).1
  exact rest.miscounted_result (by simpa using third) wrong

theorem unpromising_result {connected : List BridgeToken} {destQueries : List Query}
    (course : Course q overlaps said result) (first : said[0]? = some (q.connectedSaid (.ok connected)))
    (second : said[1]? = some (q.originSaid (routable connected) (.ok originQueries)))
    (third : said[2]? = some (q.destSaid (routable connected) originQueries (.ok destQueries)))
    (counted : destQueries.length = (routable connected).length) (zeros : ∀ d ∈ destQueries, d.minAmountOut = .zero) :
    result = .ok ⟨none, none, q.originRouter.address, .zero, none, none⟩ := by
  obtain ⟨origins, rest⟩ := course.restOfRest first second (List.getElem?_eq_some_iff.mp third).1
  exact rest.unpromising_result origins (by simpa using third) counted zeros

theorem pair_law (course : Course q overlaps said result) (named : q.destRouter.chainId = q.dest)
    (beyond : 3 < said.length) : ∃ timing, overlaps timing ∧ PairLaw q timing (said.drop 3) result := by
  obtain ⟨connected, originQueries, first, second⟩ := course.beyondSecond (by omega)
  obtain ⟨_, rest⟩ := course.restOfRest first second (by omega)
  obtain ⟨timing, overlap, law⟩ := rest.pair_law named (by simp; omega)
  exact ⟨timing, overlap, by simpa using law⟩

-- An exchange is with the router of one of the two chains, which the router itself names.
theorem router {sdk : Sdk} {e : Exchange} (course : Course q overlaps said result) (own : sdk.registry.OwnIds)
    (originFound : sdk.router q.origin = .ok q.originRouter) (destFound : sdk.router q.dest = .ok q.destRouter)
    (member : e ∈ said) : ∃ chain, (chain = q.origin ∨ chain = q.dest) ∧ sdk.router chain = .ok e.router ∧
      e.router.chainId = chain := by
  have listed := course.order.subset (List.mem_map_of_mem member)
  have routers : e.router = q.originRouter ∨ e.router = q.destRouter := by
    simp only [Sdk.callOrder, Exchange.callee, List.mem_cons, Prod.mk.injEq, List.not_mem_nil, or_false] at listed
    rcases listed with ⟨same, _⟩ | ⟨same, _⟩ | ⟨same, _⟩ | ⟨same, _⟩ | ⟨same, _⟩ <;> simp [same]
  rcases routers with same | same
  · exact ⟨q.origin, .inl rfl, same ▸ originFound, same ▸ own.chainId originFound⟩
  · exact ⟨q.dest, .inr rfl, same ▸ destFound, same ▸ own.chainId destFound⟩

end Course

namespace Sdk

-- In which order the calls come, after which replies they stop, and with what the quote then ends.
structure CallLaw (sdk : Sdk) (q : Inquiry) (overlaps : Timing → Prop) (said : List Exchange)
    (result : Except Error BridgeQuote) : Prop where
  order : said.map Exchange.callee <+: callOrder q.originRouter q.destRouter
  once : (said.map fun e => e.question.call).Nodup
  afterFirst : said.length = 1 ↔ (∃ reason, said[0]? = some (q.connectedSaid (.error reason))) ∨
    said[0]? = some (q.connectedSaid (.ok []))
  afterSecond : said.length = 2 ↔ ∃ connected, connected ≠ [] ∧ said[0]? = some (q.connectedSaid (.ok connected)) ∧
    ((∃ reason, said[1]? = some (q.originSaid (routable connected) (.error reason))) ∨
      ∃ originQueries, said[1]? = some (q.originSaid (routable connected) (.ok originQueries)) ∧
        originQueries.length ≠ (routable connected).length)
  afterThird : said.length = 3 ↔ ∃ connected originQueries,
    said[0]? = some (q.connectedSaid (.ok connected)) ∧
    said[1]? = some (q.originSaid (routable connected) (.ok originQueries)) ∧
    ((∃ reason, said[2]? = some (q.destSaid (routable connected) originQueries (.error reason))) ∨
      ∃ destQueries, said[2]? = some (q.destSaid (routable connected) originQueries (.ok destQueries)) ∧
        (destQueries.length ≠ (destRequests (routable connected) originQueries).length ∨
          ∀ d ∈ destQueries, d.minAmountOut = .zero))
  refused : ∀ e ∈ said.take 3, ∀ reason, e.reply = .error reason → said.getLast? = some e ∧
    ∃ chain, (chain = q.origin ∨ chain = q.dest) ∧ sdk.router chain = .ok e.router ∧
      result = .error (.contract chain e.question.call (.refused reason))
  pair : 3 < said.length → ∃ timing, overlaps timing ∧ PairLaw q timing (said.drop 3) result
  unconnected : said[0]? = some (q.connectedSaid (.ok [])) → result = .error (.noRoute q.origin q.dest q.tokenOut)
  originMiscounted : ∀ connected originQueries, said[0]? = some (q.connectedSaid (.ok connected)) →
    said[1]? = some (q.originSaid (routable connected) (.ok originQueries)) →
    originQueries.length ≠ (routable connected).length →
    result = .error (.contract q.origin "getOriginAmountOut"
      (.countMismatch originQueries.length (routable connected).length))
  destMiscounted : ∀ connected originQueries destQueries, said[0]? = some (q.connectedSaid (.ok connected)) →
    said[1]? = some (q.originSaid (routable connected) (.ok originQueries)) →
    said[2]? = some (q.destSaid (routable connected) originQueries (.ok destQueries)) →
    destQueries.length ≠ (routable connected).length →
    result = .error (.contract q.dest "getDestinationAmountOut"
      (.countMismatch destQueries.length (routable connected).length))
  unpromising : ∀ connected originQueries destQueries, said[0]? = some (q.connectedSaid (.ok connected)) →
    said[1]? = some (q.originSaid (routable connected) (.ok originQueries)) →
    said[2]? = some (q.destSaid (routable connected) originQueries (.ok destQueries)) →
    destQueries.length = (routable connected).length → (∀ d ∈ destQueries, d.minAmountOut = .zero) →
    result = .ok ⟨none, none, q.originRouter.address, .zero, none, none⟩

variable {sdk : Sdk} {origin dest : ChainId} {tokenIn tokenOut : Address} {amountIn : Amount} {deadline : Option Amount}
  {backend : Backend σ} {s : σ}

theorem callLaw_run (own : sdk.registry.OwnIds)
    (opens : sdk.Opens (backend.clock s).1 origin dest tokenIn tokenOut amountIn deadline q) :
    CallLaw sdk q (backend.Overlaps q.destRouter)
      ((sdk.bridgeQuote origin dest tokenIn tokenOut amountIn deadline).exchanges backend s)
      ((sdk.bridgeQuote origin dest tokenIn tokenOut amountIn deadline).run backend s).result := by
  have course := bridgeQuote_course opens
  obtain ⟨rfl, rfl, _, _, originFound, destFound, _, _⟩ := opens
  refine ⟨course.order, course.once, course.afterFirst, course.afterSecond, course.afterThird,
    fun e member reason refused => ?_, course.pair_law (own.chainId destFound), course.unconnected_result,
    fun _ _ => course.originMiscounted_result, fun _ _ _ => course.destMiscounted_result,
    fun _ _ _ => course.unpromising_result⟩
  obtain ⟨last, failed⟩ := course.refused_last member refused
  obtain ⟨chain, either, found, named⟩ := course.router own originFound destFound (List.mem_of_mem_take member)
  refine ⟨last, chain, either, found, ?_⟩
  rw [failed, Plan.refusal, named]

-- `requests` asks for each candidate what the origin query at its position sends.
theorem destRequests_getElem? {candidates : List BridgeToken} {originQueries : List Query} {j : Nat}
    {candidate : BridgeToken} {originQuery : Query} (candidateAt : candidates[j]? = some candidate)
    (originAt : originQueries[j]? = some originQuery) :
    (destRequests candidates originQueries)[j]? = some ⟨candidate.symbol, originQuery.minAmountOut⟩ := by
  simp [destRequests, List.getElem?_zipWith, candidateAt, originAt]

-- A quote is only had on configured chains.
theorem opens_of_ok {now : UInt64} {quote : BridgeQuote}
    (quoted : ((sdk.bridgeQuote origin dest tokenIn tokenOut amountIn deadline).run backend s).result = .ok quote) :
    ∃ q, sdk.Opens now origin dest tokenIn tokenOut amountIn deadline q := by
  by_cases configured : origin ∈ sdk.registry.ids ∧ dest ∈ sdk.registry.ids
  · exact opens_configured configured.1 configured.2
  · obtain ⟨chain, _, _, fails⟩ := bridgeQuote_unconfigured (Decidable.not_and_iff_not_or_not.mp configured)
      tokenIn tokenOut amountIn deadline
    rw [fails, Plan.run] at quoted
    cases quoted

theorem course_routed {quote : BridgeQuote} (course : Course q overlaps said (.ok quote)) (routed : quote.hasRoute = true) :
    ∃ connected originQueries destQueries best feeAmount feeConfig,
      originQueries.length = (routable connected).length ∧ destQueries.length = (routable connected).length ∧
      (BestRoute.all (routable connected) originQueries destQueries)[best.index]? = some best ∧
      BestRoute.Wins destQueries best.index quote.maxAmountOut ∧
      said = [q.connectedSaid (.ok connected), q.originSaid (routable connected) (.ok originQueries),
        q.destSaid (routable connected) originQueries (.ok destQueries), q.bridgeFeeSaid best (.ok feeAmount),
        q.feeSaid best (.ok feeConfig)] ∧
      quote = q.quote quote.maxAmountOut best feeAmount feeConfig := by
  cases course with
  | connected connects rest =>
    cases rest with
    | counted origins rest =>
      cases rest with
      | routeless => simp [emptyQuote, BridgeQuote.hasRoute] at routed
      | chosen counted chosen _ fees =>
        cases fees with
        | routed feeAmount feeConfig =>
          obtain ⟨place, wins⟩ := BestRoute.select_some origins counted chosen
          exact ⟨_, _, _, _, feeAmount, feeConfig, origins, counted, place, wins, rfl, rfl⟩

theorem bridgeQuote_calls (sdk : Sdk) (own : sdk.registry.OwnIds) (origin dest : ChainId)
    (tokenIn tokenOut : Address) (amountIn : Amount) (deadline : Option Amount) (backend : Backend σ) (s : σ) :
    let plan := sdk.bridgeQuote origin dest tokenIn tokenOut amountIn deadline
    let said := plan.exchanges backend s
    let result := (plan.run backend s).result
    Event.calls (plan.run backend s).events = said.map Exchange.call ∧
    (said = [] ↔ origin ∉ sdk.registry.ids ∨ dest ∉ sdk.registry.ids) ∧
    (said = [] → ∃ chain, (chain = origin ∨ chain = dest) ∧ chain ∉ sdk.registry.ids ∧
      result = .error (.unsupportedChain chain)) ∧
    (origin ∈ sdk.registry.ids → dest ∈ sdk.registry.ids →
      ∃ q, sdk.Opens (backend.clock s).1 origin dest tokenIn tokenOut amountIn deadline q ∧
        CallLaw sdk q (backend.Overlaps q.destRouter) said result) := by
  intro plan said result
  refine ⟨Plan.calls_run bridgeQuote_plain backend s, ?_⟩
  by_cases configured : origin ∈ sdk.registry.ids ∧ dest ∈ sdk.registry.ids
  · obtain ⟨q, opens⟩ := opens_configured configured.1 configured.2
    have nonempty : said ≠ [] := (bridgeQuote_course opens).nonempty
    exact ⟨by simp [nonempty, configured], fun none => absurd none nonempty,
      fun _ _ => ⟨q, opens, callLaw_run own opens⟩⟩
  · have missing := Decidable.not_and_iff_not_or_not.mp configured
    obtain ⟨chain, either, lacks, fails⟩ := bridgeQuote_unconfigured missing tokenIn tokenOut amountIn deadline
    have silent : said = [] := by
      simp only [said, plan, fails, Plan.exchanges]
    have failed : result = .error (.unsupportedChain chain) := by
      simp only [result, plan, fails, Plan.run]
    exact ⟨by simp [silent, missing], fun _ => ⟨chain, either, lacks, failed⟩,
      fun origins dests => absurd ⟨origins, dests⟩ configured⟩

def twoChains : Sdk := ⟨.twoChains, 600⟩

def twoLinks : List Link := Registry.twoRouters.map .fixed

theorem bridgeQuote_calls_twoLinks : twoChains.registry.OwnIds ∧
    let plan := twoChains.bridgeQuote 1 10 (.ofNat 0xA1) (.ofNat 0xA2) 100 none
    ∃ q, CallLaw twoChains q ((Link.backend 1000).Overlaps q.destRouter)
      (plan.exchanges (Link.backend 1000) twoLinks) (plan.run (Link.backend 1000) twoLinks).result := by
  refine ⟨Registry.twoChains_ownIds, ?_⟩
  obtain ⟨_, _, _, configured⟩ := bridgeQuote_calls twoChains Registry.twoChains_ownIds 1 10 (.ofNat 0xA1)
    (.ofNat 0xA2) 100 none (Link.backend 1000) twoLinks
  obtain ⟨q, _, law⟩ := configured (by decide) (by decide)
  exact ⟨q, law⟩

theorem bridgeQuote_position (sdk : Sdk) (origin dest : ChainId) (tokenIn tokenOut : Address)
    (amountIn : Amount) (deadline : Option Amount) (backend : Backend σ) (s : σ) (quote : BridgeQuote)
    (quoted : ((sdk.bridgeQuote origin dest tokenIn tokenOut amountIn deadline).run backend s).result = .ok quote)
    (routed : quote.hasRoute = true) :
    ∃ originRouter destRouter normalIn normalOut connected originQueries destQueries requests feeAmount feeConfig,
      sdk.router origin = .ok originRouter ∧ sdk.router dest = .ok destRouter ∧
      sdk.registry.normalize origin tokenIn = .ok normalIn ∧ sdk.registry.normalize dest tokenOut = .ok normalOut ∧
      let candidates := connected.filter fun t => t.symbol != "" && t.token != .zero
      originQueries.length = candidates.length ∧ destQueries.length = candidates.length ∧
      requests.length = candidates.length ∧
      (∀ (j : Nat) candidate originQuery, candidates[j]? = some candidate → originQueries[j]? = some originQuery →
        requests[j]? = some ⟨candidate.symbol, originQuery.minAmountOut⟩) ∧
      ∃! i, ∃ candidate originQuery destQuery, candidates[i]? = some candidate ∧
        originQueries[i]? = some originQuery ∧ destQueries[i]? = some destQuery ∧
        (sdk.bridgeQuote origin dest tokenIn tokenOut amountIn deadline).exchanges backend s = [
          ⟨destRouter, .connectedBridgeTokens normalOut, .ok connected⟩,
          ⟨originRouter, .originAmountOut normalIn (candidates.map BridgeToken.symbol) amountIn, .ok originQueries⟩,
          ⟨destRouter, .destinationAmountOut requests normalOut, .ok destQueries⟩,
          ⟨destRouter, .bridgeFee candidate.token originQuery.minAmountOut, .ok feeAmount⟩,
          ⟨destRouter, .fee candidate.token, .ok feeConfig⟩] ∧
        quote = {
          feeAmount := some feeAmount
          feeConfig := some feeConfig
          routerAddress := originRouter.address
          maxAmountOut := destQuery.minAmountOut
          originQuery := some { originQuery with deadline := deadline.getD (dueAt (backend.clock s).1 sdk.deadlineSecs) }
          destQuery := some { destQuery with deadline := deadline.getD (dueAt (backend.clock s).1 sdk.deadlineSecs) } } ∧
        BestRoute.Wins destQueries i quote.maxAmountOut := by
  obtain ⟨q, opens⟩ : ∃ q, sdk.Opens (backend.clock s).1 origin dest tokenIn tokenOut amountIn deadline q :=
    opens_of_ok quoted
  have course := bridgeQuote_course opens
  rw [quoted] at course
  obtain ⟨connected, originQueries, destQueries, best, feeAmount, feeConfig, origins, dests, place, wins, said,
    parts⟩ :=
    course_routed course routed
  obtain ⟨rfl, rfl, normalOut, normalIn, originFound, destFound, rfl, resolved⟩ := opens
  obtain ⟨_, originAt, destAt, candidate, candidateAt, token⟩ := BestRoute.getElem?_all.mp place
  obtain ⟨_, destAt', promised⟩ := wins.promised
  obtain rfl := Option.some.inj (destAt.symm.trans destAt')
  have asMany : (destRequests (routable connected) originQueries).length = (routable connected).length := by
    simp [destRequests, origins]
  refine ⟨q.originRouter, q.destRouter, q.tokenIn, q.tokenOut, connected, originQueries, destQueries,
    destRequests (routable connected) originQueries, feeAmount, feeConfig, originFound, destFound, normalIn, normalOut,
    origins, dests, asMany, fun _ _ _ => destRequests_getElem?, best.index,
    ⟨candidate, best.originQuery, best.destQuery, candidateAt, originAt, destAt, ?_, ?_, wins⟩, ?_⟩
  · rw [said, ← token]
    rfl
  · rw [parts, ← promised]
    simp only [← resolved]
    rfl
  · rintro i ⟨_, _, _, _, _, _, _, _, other⟩
    exact other.unique wins

theorem bridgeQuote_position_twoLinks : ∃ quote,
    ((twoChains.bridgeQuote 1 10 (.ofNat 0xA1) (.ofNat 0xA2) 100 none).run (Link.backend 1000) twoLinks).result =
      .ok quote ∧ quote.hasRoute = true ∧ ∃ destQueries i, BestRoute.Wins destQueries i quote.maxAmountOut := by
  refine ⟨_, rfl, rfl, ?_⟩
  obtain ⟨_, _, _, _, _, _, destQueries, _, _, _, _, _, _, _, _, _, _, _, i, ⟨_, _, _, _, _, _, _, _, wins⟩, _⟩ :=
    bridgeQuote_position twoChains 1 10 (.ofNat 0xA1) (.ofNat 0xA2) 100 none (Link.backend 1000) twoLinks _ rfl rfl
  exact ⟨destQueries, i, wins⟩

end Sdk

end RouteQuote
