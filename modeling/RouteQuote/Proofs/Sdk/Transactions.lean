import RouteQuote.Proofs.Abi.RoundTrip
import RouteQuote.Proofs.Chain.Registry
import RouteQuote.Sdk.Operation

namespace RouteQuote

-- A byte string is never longer, for its length is a signed number of 64 bits.
def Query.Held (q : Query) : Prop := q.rawParams.length < Nat.pow 2 63

namespace Abi

theorem length_ofQuery (q : Query) : (assemble (parts swapQuery (ofQuery q))).length =
    32 + (192 + paddedLength q.rawParams.length) := by
  simp [swapQuery, ofQuery, amount, parts, Shape.isDynamic, length_assemble, Part.headLength, tails, length_word,
    length_padded]
  omega

theorem fits_ofQuery {q : Query} (held : q.Held) : Fits swapQuery (ofQuery q) := by
  have counted : q.rawParams.length < UInt64.size := Nat.lt_trans held (by decide)
  refine ⟨?_, trivial, trivial, trivial, trivial, counted, trivial⟩
  simp [ofQuery, amount, parts, Reached, Part.headLength, length_word]
  decide

theorem parts_ofQuery (q : Query) : ∃ bytes, parts swapQuery (ofQuery q) = [⟨true, bytes⟩] ∧
    bytes.length = 192 + paddedLength q.rawParams.length := by
  have length := length_ofQuery q
  obtain ⟨bytes, only⟩ : ∃ bytes, parts swapQuery (ofQuery q) = [⟨true, bytes⟩] := ⟨_, rfl⟩
  rw [only, length_assemble_dynamic] at length
  exact ⟨bytes, only, by omega⟩

theorem decode_bridge (recipient : Address) (dest : ChainId) (token : Address) (value : Amount)
    {originQuery destQuery : Query} (originHeld : originQuery.Held) (destHeld : destQuery.Held) (after : List UInt8) :
    let arguments := (recipient, Amount.ofWord dest, token, value, ofQuery originQuery, ofQuery destQuery, ())
    bridge.decodeCall (bridge.calldata arguments ++ after) = .ok arguments := by
  intro arguments
  obtain ⟨bytes, first, length⟩ := parts_ofQuery originQuery
  obtain ⟨other, second, _⟩ := parts_ofQuery destQuery
  have fits : Fits bridge.inputs arguments :=
    ⟨trivial, trivial, trivial, trivial, fits_ofQuery originHeld, fits_ofQuery destHeld, trivial⟩
  have reached : Reached (headsLength (parts bridge.inputs arguments)) (parts bridge.inputs arguments) := by
    have short := paddedLength_lt originQuery.rawParams.length
    have below : 192 + bytes.length < UInt64.size := by
      unfold Query.Held at originHeld
      rw [show Nat.pow 2 63 = 9223372036854775808 from rfl] at originHeld
      rw [show UInt64.size = 18446744073709551616 from rfl]
      omega
    simp only [bridge, arguments, parts, first, second]
    simp [amount, parts, Reached, Part.headLength, length_word]
    exact ⟨by decide, below⟩
  exact decodeCall_calldata reached fits after

theorem decode_swap (recipient token : Address) (value : Amount) {query : Query} (held : query.Held)
    (after : List UInt8) :
    let arguments := (recipient, token, value, ofQuery query, ())
    swap.decodeCall (swap.calldata arguments ++ after) = .ok arguments := by
  intro arguments
  obtain ⟨bytes, only, _⟩ := parts_ofQuery query
  have fits : Fits swap.inputs arguments := ⟨trivial, trivial, trivial, fits_ofQuery held, trivial⟩
  have reached : Reached (headsLength (parts swap.inputs arguments)) (parts swap.inputs arguments) := by
    simp only [swap, arguments, parts, only]
    simp [amount, parts, Reached, Part.headLength, length_word]
    decide
  exact decodeCall_calldata reached fits after

end Abi

namespace Sdk

variable {sdk : Sdk} {origin dest chain : ChainId} {recipient token : Address} {amount : Amount}
  {originQuery destQuery query : Query}

theorem bridge_missing (missing : origin ∉ sdk.registry.ids) :
    sdk.bridge recipient origin dest token amount originQuery destQuery = .error (.unsupportedChain origin) := by
  rcases Registry.normalize_missing missing token with lost | kept
  · simp only [bridge, lost, bind, Except.bind]
  · simp only [bridge, kept, router, Registry.router_missing missing, bind, Except.bind]

theorem swap_missing (missing : chain ∉ sdk.registry.ids) :
    sdk.swap chain recipient token amount query = .error (.unsupportedChain chain) := by
  rcases Registry.normalize_missing missing token with lost | kept
  · simp only [swap, lost, bind, Except.bind]
  · simp only [swap, kept, router, Registry.router_missing missing, bind, Except.bind]

theorem transactions_configured (configured : chain ∈ sdk.registry.ids) (token : Address) : ∃ router normal,
    sdk.router chain = .ok router ∧ sdk.registry.normalize chain token = .ok normal ∧
    (∀ recipient dest amount originQuery destQuery, sdk.bridge recipient chain dest token amount originQuery destQuery =
      .ok (router.bridgeTransaction recipient dest normal amount originQuery destQuery)) ∧
    (∀ recipient amount query, sdk.swap chain recipient token amount query =
      .ok (router.swapTransaction recipient normal amount query)) := by
  obtain ⟨e, found, _⟩ := Registry.router_configured configured
  obtain ⟨normal, normalised⟩ := Registry.normalize_configured configured token
  refine ⟨e.router, normal, found, normalised, ?_, ?_⟩
  · intro recipient dest amount originQuery destQuery
    simp only [bridge, normalised, router, found, bind, Except.bind]
    rfl
  · intro recipient amount query
    simp only [swap, normalised, router, found, bind, Except.bind]
    rfl

theorem transactions_readBack (sdk : Sdk) (recipient token : Address) (amount : Amount) (origin dest : ChainId)
    (originQuery destQuery query : Query) :
    (∀ e, sdk.bridge recipient origin dest token amount originQuery destQuery = .error e ↔
      origin ∉ sdk.registry.ids ∧ e = .unsupportedChain origin) ∧
    (∀ e, sdk.swap origin recipient token amount query = .error e ↔
      origin ∉ sdk.registry.ids ∧ e = .unsupportedChain origin) ∧
    (origin ∈ sdk.registry.ids → ∃ router normal bridgeData swapData,
      sdk.router origin = .ok router ∧ sdk.registry.normalize origin token = .ok normal ∧
      sdk.bridge recipient origin dest token amount originQuery destQuery = .ok ⟨router.address, bridgeData⟩ ∧
      sdk.swap origin recipient token amount query = .ok ⟨router.address, swapData⟩ ∧
      ∀ t,
        (originQuery.Held → destQuery.Held → Abi.bridge.decodeCall (bridgeData ++ t) = .ok
          (recipient, Amount.ofWord dest, normal, amount, Abi.ofQuery originQuery, Abi.ofQuery destQuery, ())) ∧
        Abi.swap.decodeCall (bridgeData ++ t) = .error (.badSelector "swap" Abi.bridge.selector) ∧
        (query.Held → Abi.swap.decodeCall (swapData ++ t) = .ok (recipient, normal, amount, Abi.ofQuery query, ())) ∧
        Abi.bridge.decodeCall (swapData ++ t) = .error (.badSelector "bridge" Abi.swap.selector)) := by
  by_cases configured : origin ∈ sdk.registry.ids
  · obtain ⟨router, normal, found, normalised, bridged, swapped⟩ := transactions_configured configured token
    refine ⟨?_, ?_, fun _ => ?_⟩
    · simp [bridged, configured]
    · simp [swapped, configured]
    · refine ⟨router, normal, _, _, found, normalised, bridged .., swapped .., fun t => ⟨?_, ?_, ?_, ?_⟩⟩
      · exact fun originHeld destHeld => Abi.decode_bridge recipient dest normal amount originHeld destHeld t
      · exact Abi.decodeCall_other Abi.bridge_ne_swap t
      · exact fun held => Abi.decode_swap recipient normal amount held t
      · exact Abi.decodeCall_other (Ne.symm Abi.bridge_ne_swap) t
  · refine ⟨?_, ?_, fun present => absurd present configured⟩
    · simp [bridge_missing configured, configured, eq_comm]
    · simp [swap_missing configured, configured, eq_comm]

-- A placeholder for the native coin, raw parameters of an odd length, and a byte behind the data.
theorem transactions_readBack_odd : let query : Query := { rawParams := [1, 2, 3] }
    query.Held ∧ (1 : ChainId) ∈ Registry.twoChains.ids ∧ ∃ router data,
      Sdk.bridge ⟨.twoChains, 600⟩ (.ofNat 0xA) 1 10 .zero 7 query {} = .ok ⟨router, data⟩ ∧
      Abi.bridge.decodeCall (data ++ [0xFF]) =
        .ok (.ofNat 0xA, Amount.ofWord 10, .sentinel, (7 : Amount), Abi.ofQuery query, Abi.ofQuery {}, ()) := by
  intro query
  have held : query.Held := by unfold Query.Held; decide
  have empty : ({} : Query).Held := by unfold Query.Held; decide
  have listed : (1 : ChainId) ∈ Registry.twoChains.ids := by decide
  obtain ⟨_, _, configured⟩ :=
    transactions_readBack ⟨.twoChains, 600⟩ (.ofNat 0xA) .zero 7 1 10 query {} query
  obtain ⟨router, normal, data, _, _, normalised, bridged, _, decoded⟩ := configured listed
  have native : normal = .sentinel := (Except.ok.inj normalised).symm
  refine ⟨held, listed, router.address, data, bridged, ?_⟩
  rw [← native]
  exact (decoded [0xFF]).1 held empty

end Sdk

end RouteQuote

namespace RouteQuote

namespace Abi

-- What stands behind the offset of a query: five words, the last an offset to the raw parameters, which are
-- filled up with zeros to whole words.
def queryLayout (q : Query) : List UInt8 :=
  addressWord q.swapAdapter ++ addressWord q.tokenOut ++ integerWord q.minAmountOut.val ++ integerWord q.deadline.val ++
    integerWord 160 ++ integerWord q.rawParams.length ++ q.rawParams ++
    List.replicate (paddedLength q.rawParams.length - q.rawParams.length) 0

theorem part_ofQuery (q : Query) : parts swapQuery (ofQuery q) = [⟨true, queryLayout q⟩] := by
  simp [swapQuery, ofQuery, amount, parts, Shape.isDynamic, assemble, heads, tails, Part.headLength, length_word, padded,
    queryLayout, ← word_integer, ← word_address]

theorem length_queryLayout (q : Query) : (queryLayout q).length = 192 + paddedLength q.rawParams.length := by
  have whole := length_ofQuery q
  rw [part_ofQuery, length_assemble_dynamic] at whole
  exact Nat.add_left_cancel whole

-- The words in front of the queries of a bridging, of which the last two are the offsets of the queries.
def bridgeHead (recipient : Address) (dest : ChainId) (token : Address) (value : Amount) (originQuery : Query) :
    List UInt8 :=
  addressWord recipient ++ integerWord dest.toNat ++ addressWord token ++ integerWord value.val ++ integerWord 192 ++
    integerWord (384 + paddedLength originQuery.rawParams.length)

def swapHead (recipient token : Address) (value : Amount) : List UInt8 :=
  addressWord recipient ++ addressWord token ++ integerWord value.val ++ integerWord 128

theorem length_bridgeHead (recipient : Address) (dest : ChainId) (token : Address) (value : Amount)
    (originQuery : Query) : (bridgeHead recipient dest token value originQuery).length = 192 := by
  simp [bridgeHead, length_addressWord, length_integerWord]

theorem length_swapHead (recipient token : Address) (value : Amount) :
    (swapHead recipient token value).length = 128 := by
  simp [swapHead, length_addressWord, length_integerWord]

theorem bridge_layout (recipient token : Address) (dest : ChainId) (value : Amount) (originQuery destQuery : Query) :
    encodeRow bridge.inputs
        (recipient, Amount.ofWord dest, token, value, ofQuery originQuery, ofQuery destQuery, ()) =
      bridgeHead recipient dest token value originQuery ++ queryLayout originQuery ++ queryLayout destQuery := by
  have second : 192 + (192 + paddedLength originQuery.rawParams.length) =
      384 + paddedLength originQuery.rawParams.length := by omega
  simp [encodeRow, bridge, amount, parts, part_ofQuery, assemble, heads, tails, Part.headLength, length_word,
    bridgeHead, ← word_integer, ← word_address, length_queryLayout, Amount.ofWord, second]

theorem swap_layout (recipient token : Address) (value : Amount) (query : Query) :
    encodeRow swap.inputs (recipient, token, value, ofQuery query, ()) =
      swapHead recipient token value ++ queryLayout query := by
  simp [encodeRow, swap, amount, parts, part_ofQuery, assemble, heads, tails, Part.headLength, length_word,
    swapHead, ← word_integer, ← word_address]

end Abi

namespace Router

open Abi

theorem transactions_layout (router : Router) (recipient token : Address) (dest : ChainId) (value : Amount)
    (originQuery destQuery query : Query) :
    let bridged := router.bridgeTransaction recipient dest token value originQuery destQuery
    let swapped := router.swapTransaction recipient token value query
    let first := paddedLength originQuery.rawParams.length
    let second := paddedLength destQuery.rawParams.length
    let only := paddedLength query.rawParams.length
    (bridge.selector = [0xC2, 0x28, 0x81, 0x47] ∧
      bridged.data = bridge.selector ++ (addressWord recipient ++ integerWord dest.toNat ++ addressWord token ++
        integerWord value.val ++ integerWord 192 ++ integerWord (384 + first)) ++
        queryLayout originQuery ++ queryLayout destQuery ∧
      bridged.data.drop (4 + 192) = queryLayout originQuery ++ queryLayout destQuery ∧
      bridged.data.drop (4 + (384 + first)) = queryLayout destQuery ∧
      bridged.data.length = 580 + first + second ∧ bridged.target = router.address) ∧
    (swap.selector = [0xB5, 0xD1, 0xCD, 0xD4] ∧
      swapped.data = swap.selector ++ (addressWord recipient ++ addressWord token ++ integerWord value.val ++
        integerWord 128) ++ queryLayout query ∧
      swapped.data.drop (4 + 128) = queryLayout query ∧
      swapped.data.length = 324 + only ∧ swapped.target = router.address) ∧
    ∀ n, 32 ∣ paddedLength n ∧ n ≤ paddedLength n ∧ paddedLength n < n + 32 := by
  intro bridged swapped first second only
  have bridgeData : bridged.data = bridge.selector ++ bridgeHead recipient dest token value originQuery ++
      queryLayout originQuery ++ queryLayout destQuery := by
    have body := bridge_layout recipient token dest value originQuery destQuery
    refine (congrArg (bridge.selector ++ ·) body).trans ?_
    simp only [List.append_assoc]
  have swapData : swapped.data = swap.selector ++ swapHead recipient token value ++ queryLayout query := by
    have body := swap_layout recipient token value query
    refine (congrArg (swap.selector ++ ·) body).trans ?_
    simp only [List.append_assoc]
  have bridgeFront : (bridge.selector ++ bridgeHead recipient dest token value originQuery).length = 4 + 192 := by
    rw [List.length_append, length_selector, length_bridgeHead]
  have swapFront : (swap.selector ++ swapHead recipient token value).length = 4 + 128 := by
    rw [List.length_append, length_selector, length_swapHead]
  have origin := length_queryLayout originQuery
  refine ⟨⟨selector_bridge, bridgeData, ?_, ?_, ?_, rfl⟩, ⟨selector_swap, swapData, ?_, ?_, rfl⟩, ?_⟩
  · rw [bridgeData, List.append_assoc _ (queryLayout originQuery)]
    exact List.drop_left' bridgeFront
  · rw [bridgeData]
    refine List.drop_left' ?_
    rw [List.length_append, bridgeFront, origin]
    omega
  · rw [bridgeData, List.length_append, List.length_append, bridgeFront, origin, length_queryLayout destQuery]
    omega
  · rw [swapData]
    exact List.drop_left' swapFront
  · rw [swapData, List.length_append, swapFront, length_queryLayout query]
    omega
  · intro n
    exact ⟨dvd_paddedLength n, le_paddedLength n, paddedLength_lt n⟩

end Router

end RouteQuote
