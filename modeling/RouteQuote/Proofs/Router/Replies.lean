import RouteQuote.Proofs.Abi.Lengths
import RouteQuote.Proofs.Abi.RoundTrip
import RouteQuote.Proofs.Abi.Truncation
import RouteQuote.Proofs.Json.Strings
import RouteQuote.Router.Script

namespace RouteQuote.Rpc

-- The answer to a question, as the results of its function.
def outputsOf : (question : Read) → question.Answer → (functionOf question).outputs.Value
  | .connectedBridgeTokens _, tokens => (tokens.map Abi.ofBridgeToken, ())
  | .originAmountOut .., queries => (queries.map Abi.ofQuery, ())
  | .destinationAmountOut .., queries => (queries.map Abi.ofQuery, ())
  | .amountOut .., query => (Abi.ofQuery query, ())
  | .bridgeFee .., amount => (amount, ())
  | .fee _, config => (config.bridgeFee, config.minFee, config.maxFee, ())
  | .bridgeAddress, address => (address, ())
  | .gasAmount _, amount => (amount, ())
  | .poolTokens _, tokens => (tokens.map Abi.ofPoolToken, ())
  | .poolInfo _, info => (info.tokens, info.lpToken, ())
  | .allPools, pools => (pools.map Abi.ofPool, ())
  | .addLiquidity .., amount => (amount, ())
  | .removeLiquidity .., amounts => (amounts, ())
  | .withdrawOne .., amount => (amount, ())

theorem map_back {write : α → β} {read : β → α} (back : ∀ a, read (write a) = a) (xs : List α) :
    (xs.map write).map read = xs := by
  have same : read ∘ write = id := funext back
  rw [List.map_map, same, List.map_id]

theorem toPool_ofPool (p : PoolSummary) : Abi.toPool (Abi.ofPool p) = p := by
  have tokens : (p.tokens.map Abi.ofPoolToken).map Abi.toPoolToken = p.tokens := map_back (fun _ => rfl) _
  simp only [Abi.toPool, Abi.ofPool, tokens]

theorem answerOf_outputsOf (question : Read) (answer : question.Answer) :
    answerOf question (outputsOf question answer) = answer := by
  cases question with
  | connectedBridgeTokens => exact map_back (fun _ => rfl) answer
  | originAmountOut => exact map_back (fun _ => rfl) answer
  | destinationAmountOut => exact map_back (fun _ => rfl) answer
  | poolTokens => exact map_back (fun _ => rfl) answer
  | allPools => exact map_back toPool_ofPool answer
  | _ => rfl

theorem solid_outputs (question : Read) : (functionOf question).outputs.solid = true := by
  cases question <;> rfl

def encodedAnswer (question : Read) (answer : question.Answer) : List UInt8 :=
  Abi.encodeRow (functionOf question).outputs (outputsOf question answer)

def canonicalReply (question : Read) (answer : question.Answer) : Reply :=
  .result (Json.ofBytes (encodedAnswer question answer))

theorem bytesOf_ofBytes (data : List UInt8) : bytesOf (.result (Json.ofBytes data)) = .ok data := by
  rw [bytesOf, Json.Reader.whole_bytes]

section

variable {question : Read} {reply : Reply} {data : List UInt8}

-- Of a reply nothing counts but the bytes in it.
theorem answer_decoded {v : (functionOf question).outputs.Value} (returned : bytesOf reply = .ok data)
    (decoded : Abi.decodeRow (functionOf question).outputs data = .ok v) :
    answer question reply = .ok (answerOf question v) := by
  have read : (functionOf question).decodeResults data = .ok v := decoded
  simp only [answer, results, returned, bind, Except.bind, read]
  rfl

theorem answer_undecoded {fault : Abi.Fault} (returned : bytesOf reply = .ok data)
    (undecoded : Abi.decodeRow (functionOf question).outputs data = .error fault) :
    ∃ reason, answer question reply = .error reason := by
  have failed : (functionOf question).decodeResults data = .error fault := undecoded
  simp only [answer, results, returned, bind, Except.bind, failed]
  exact ⟨_, rfl⟩

end

-- Data and count words reach no further than a machine can count when the reply itself can be held.
theorem answer_canonical (question : Read) (value : question.Answer)
    (held : (encodedAnswer question value).length < UInt64.size) :
    answer question (canonicalReply question value) = .ok value := by
  have decoded : Abi.decodeRow (functionOf question).outputs (encodedAnswer question value) = .ok (outputsOf question value) :=
    Abi.decodeRow_held _ _ (solid_outputs question) held
  rw [canonicalReply, answer_decoded (bytesOf_ofBytes _) decoded, answerOf_outputsOf]

end RouteQuote.Rpc

namespace RouteQuote.Rpc

variable {question : Read} {value : question.Answer} {data p missing : List UInt8}

theorem answer_cut (held : (encodedAnswer question value).length < UInt64.size)
    (whole : encodedAnswer question value = p ++ missing) (lost : missing ≠ []) :
    (∃ reason, answer question (.result (Json.ofBytes p)) = .error reason) ∨
    answer question (.result (Json.ofBytes p)) = .ok value ∧ ∃ b front kept,
      Abi.lastBytes? (functionOf question).outputs (outputsOf question value) = some b ∧
      p = front ++ b ++ kept ∧ kept ++ missing = Abi.padding b := by
  cases decoded : Abi.decodeRow (functionOf question).outputs p with
  | error fault => exact .inl (answer_undecoded (bytesOf_ofBytes p) decoded)
  | ok v =>
    obtain ⟨rfl, padded⟩ := Abi.decodeRow_cut (solid_outputs question) held whole lost decoded
    rw [answer_decoded (bytesOf_ofBytes p) decoded, answerOf_outputsOf]
    exact .inr ⟨rfl, padded⟩

-- Of answers that a machine can hold, as nodes send them: a cut is refused as an error of the call, on the chain it
-- was for, unless it took nothing but zeros at the end of the last text or byte string.
theorem truncated_answer (transport : Transport σ) (router : Router) (question : Read) (value : question.Answer)
    (held : (encodedAnswer question value).length < UInt64.size) {p missing : List UInt8}
    (whole : encodedAnswer question value = p ++ missing) (lost : missing ≠ []) {s after : σ}
    (replied : transport.send router.link (request router question) s = (.result (Json.ofBytes p), after)) :
    let result := ((Plan.read router question).run transport.backend s).result
    (∃ reason, result = .error (.contract router.chainId question.call (.refused reason))) ∨
    result = .ok value ∧ ∃ b front kept,
      Abi.lastBytes? (functionOf question).outputs (outputsOf question value) = some b ∧
      p = front ++ b ++ kept ∧ kept ++ missing = List.replicate (Abi.paddedLength b.length - b.length) 0 := by
  intro result
  rcases answer_cut held whole lost with ⟨reason, refused⟩ | ⟨answered, padded⟩
  · refine .inl ⟨reason, ?_⟩
    simp only [result, Plan.read, Plan.run, Transport.backend, replied, refused]
    rfl
  · refine .inr ⟨?_, padded⟩
    simp only [result, Plan.read, Plan.run, Transport.backend, replied, answered]

-- Two bytes of raw parameters have thirty bytes of padding behind them. With one byte more cut off, the answer
-- is refused.
theorem truncated_answer_query :
    let question : Read := .amountOut .zero .zero 0
    let whole := encodedAnswer question { rawParams := [1, 2] }
    let transport := Transport.repeating (.result (Json.ofBytes (whole.take 225)))
    whole.length < UInt64.size ∧ whole = whole.take 225 ++ whole.drop 225 ∧ whole.drop 225 ≠ [] ∧
      ∃ reason, ((Plan.read ⟨0, 1, .zero⟩ question).run transport.backend ()).result =
        .error (.contract 1 "getAmountOut" (.refused reason)) := by
  intro question whole transport
  have length : whole.length = 256 :=
    (Abi.length_encodeRow Abi.getAmountOut.outputs (outputsOf question { rawParams := [1, 2] })).trans (by decide)
  have held : whole.length < UInt64.size := by
    rw [length]
    decide
  have parted : whole = whole.take 225 ++ whole.drop 225 := (List.take_append_drop 225 whole).symm
  have many : (whole.drop 225).length = 31 := by rw [List.length_drop, length]
  have lost : whole.drop 225 ≠ [] := by
    intro none
    rw [none] at many
    cases many
  refine ⟨held, parted, lost, ?_⟩
  rcases truncated_answer transport ⟨0, 1, .zero⟩ question _ held parted lost rfl with refused | ⟨_, padded⟩
  · exact refused
  · obtain ⟨b, front, kept, last, _, padding⟩ := padded
    cases last
    have room := congrArg List.length padding
    rw [List.length_append, many, List.length_replicate] at room
    have bound : Abi.paddedLength 2 - 2 = 30 := rfl
    have whole : kept.length + 31 = Abi.paddedLength 2 - 2 := room
    omega

end RouteQuote.Rpc

namespace RouteQuote.Rpc

-- A stretch of the data, with room for a length word before it.
def Stretch (data b : List UInt8) : Prop := b <:+: data ∧ 32 + b.length ≤ data.length

-- What in an answer has a length is paid for by the data: a word for each item and one for their number, two words for
-- each token of a pool, and the bytes themselves for raw parameters and for what a symbol is the text of. What is
-- paid for one list may pay for another list too.
def PaidFor (data : List UInt8) : (question : Read) → question.Answer → Prop
  | .connectedBridgeTokens _, tokens => 32 * (tokens.length + 1) ≤ data.length ∧
    ∀ token ∈ tokens, ∃ source, Stretch data source ∧ token.symbol = Text.utf8Lossy source
  | .originAmountOut .., queries | .destinationAmountOut .., queries => 32 * (queries.length + 1) ≤ data.length ∧
    ∀ query ∈ queries, Stretch data query.rawParams
  | .amountOut .., query => Stretch data query.rawParams
  | .poolTokens _, tokens => 64 * tokens.length + 32 ≤ data.length
  | .allPools, pools => 32 * (pools.length + 1) ≤ data.length ∧
    ∀ pool ∈ pools, 64 * pool.tokens.length + 32 ≤ data.length
  | .removeLiquidity .., amounts => 32 * (amounts.length + 1) ≤ data.length
  | _, _ => True

section

variable {data : List UInt8}

theorem stretch_of_infix {b : List UInt8} (stands : Abi.word b.length ++ b <:+: data) : Stretch data b :=
  ⟨(List.suffix_append (Abi.word b.length) b).isInfix.trans stands, Abi.length_of_infix stands⟩

theorem stretch_rawParams {v : Abi.swapQuery.Value} (backed : Abi.Backed data Abi.swapQuery v) :
    Stretch data (Abi.toQuery v).rawParams := by
  obtain ⟨_, _, _, _, stands, _⟩ := backed
  exact stretch_of_infix stands

theorem stretch_symbol {v : Abi.bridgeToken.Value} (backed : Abi.Backed data Abi.bridgeToken v) :
    ∃ source, Stretch data source ∧ (Abi.toBridgeToken v).symbol = Text.utf8Lossy source := by
  obtain ⟨⟨source, stands, same⟩, _⟩ := backed
  exact ⟨source, stretch_of_infix stands, same⟩

-- Items that stand behind offsets, or are single words themselves, as they are understood.
theorem length_items {item : Abi.Shape .one} {read : item.Value → α} {xs : List item.Value}
    (backed : Abi.Backed data (.array item) xs) (single : item.words = 1) :
    32 * ((xs.map read).length + 1) ≤ data.length := by
  have room := backed.length_array
  rw [single, Nat.mul_one] at room
  rwa [List.length_map]

theorem length_poolTokens {xs : List Abi.poolToken.Value} (backed : Abi.Backed data (.array Abi.poolToken) xs) :
    64 * (xs.map Abi.toPoolToken).length + 32 ≤ data.length := by
  have room : 32 * (xs.length * 2 + 1) ≤ data.length := backed.length_array
  rw [List.length_map]
  omega

theorem paidFor_of_backed (question : Read) {v : (functionOf question).outputs.Value}
    (backed : Abi.Backed data (functionOf question).outputs v) : PaidFor data question (answerOf question v) := by
  cases question with
  | connectedBridgeTokens =>
    obtain ⟨list, _⟩ := backed
    exact ⟨length_items list rfl, List.forall_mem_map.mpr fun x member => stretch_symbol (list.2 x member)⟩
  | originAmountOut | destinationAmountOut =>
    obtain ⟨list, _⟩ := backed
    exact ⟨length_items list rfl, List.forall_mem_map.mpr fun x member => stretch_rawParams (list.2 x member)⟩
  | amountOut => exact stretch_rawParams backed.1
  | poolTokens => exact length_poolTokens backed.1
  | allPools =>
    obtain ⟨list, _⟩ := backed
    refine ⟨length_items list rfl, List.forall_mem_map.mpr fun x member => ?_⟩
    obtain ⟨_, _, tokens, _⟩ := list.2 x member
    exact length_poolTokens tokens
  | removeLiquidity =>
    have room : 32 * ((v.1.map id).length + 1) ≤ data.length := length_items backed.1 rfl
    rwa [List.map_id] at room
  | _ => trivial

end

-- Whatever bytes a node returns, with offsets and lengths of its choice: the read is refused as an error of the call,
-- on the chain it was for, or what it gives is paid for.
theorem read_paidFor (transport : Transport σ) (router : Router) (question : Read) (s : σ) {data : List UInt8}
    (returned : bytesOf (transport.send router.link (request router question) s).1 = .ok data) :
    let result := ((Plan.read router question).run transport.backend s).result
    (∃ reason, result = .error (.contract router.chainId question.call (.refused reason))) ∨
    ∃ value, result = .ok value ∧ PaidFor data question value := by
  intro result
  cases decoded : Abi.decodeRow (functionOf question).outputs data with
  | error fault =>
    obtain ⟨reason, refused⟩ := answer_undecoded returned decoded
    refine .inl ⟨reason, ?_⟩
    simp only [result, Plan.read, Plan.run, Transport.backend, refused]
    rfl
  | ok v =>
    have answered := answer_decoded returned decoded
    refine .inr ⟨answerOf question v, ?_, paidFor_of_backed question (Abi.decodeRow_backed decoded)⟩
    simp only [result, Plan.read, Plan.run, Transport.backend, answered]

-- Two pools that are read from the same place, with a token each: all that either has of its own is an offset.
theorem read_paidFor_sharedPools :
    let data := [32, 2, 64, 64, 1, 2, 96, 1, 1, 3].flatMap Abi.word
    let pool : PoolSummary := ⟨.ofNat 1, [⟨true, .ofNat 3⟩], .ofNat 2⟩
    let transport := Transport.repeating (.result (Json.ofBytes data))
    bytesOf (.result (Json.ofBytes data)) = .ok data ∧
      ((Plan.read ⟨0, 1, .zero⟩ .allPools).run transport.backend ()).result = .ok [pool, pool] ∧
      PaidFor data .allPools [pool, pool] := by
  intro data pool transport
  have returned := bytesOf_ofBytes data
  have shared : (Abi.decodeRow (functionOf .allPools).outputs data).toOption.map (answerOf .allPools) = some [pool, pool] := by
    decide +kernel
  have answered : ((Plan.read ⟨0, 1, .zero⟩ .allPools).run transport.backend ()).result = .ok [pool, pool] := by
    cases decoded : Abi.decodeRow (functionOf .allPools).outputs data with
    | error fault =>
      rw [decoded] at shared
      cases shared
    | ok v =>
      rw [decoded] at shared
      have same : answerOf .allPools v = [pool, pool] := Option.some.inj shared
      simp only [Plan.read, Plan.run, Transport.backend, transport, Transport.repeating, answer_decoded returned decoded, same]
  refine ⟨returned, answered, ?_⟩
  rcases read_paidFor transport ⟨0, 1, .zero⟩ .allPools () returned with ⟨reason, refused⟩ | ⟨value, gave, paid⟩
  · rw [answered] at refused
    cases refused
  · rw [answered] at gave
    cases gave
    exact paid

end RouteQuote.Rpc
