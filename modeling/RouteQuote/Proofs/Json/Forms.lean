import RouteQuote.Proofs.Address.Digits
import RouteQuote.Proofs.Amount.Numerals
import RouteQuote.Proofs.Json.Records

namespace RouteQuote.Json

namespace Reader

variable {gap : List Char}

theorem opening_stringText (blank : Blank gap) (s : String) (rest : List Char) :
    opening (gap ++ (stringText s ++ rest)) = .ok ('"', stringText s ++ rest) := by
  rw [stringText_append]
  exact opening_blank blank rfl _

theorem reads_text (s : String) : Reads text (.string s) s := by
  intro t laid gap blank rest
  rw [laid.string, text, bind_ok (opening_stringText blank s rest), if_pos rfl]
  exact text_stringText s rest

theorem reads_bytes (data : List UInt8) : Reads bytes (ofBytes data) data := by
  intro t laid gap blank rest
  rw [laid.string, bytes, bind_ok (opening_stringText blank _ rest), if_pos rfl]
  exact bytes_stringText data rest

theorem reads_address (a : Address) : Reads address (ofAddress a) a := by
  intro t laid gap blank rest
  rw [laid.string, address, bind_ok (opening_stringText blank _ rest), if_pos rfl, bind_ok (text_stringText _ rest), a.read_text]
  rfl

theorem reads_amount (a : Amount) : Reads amount (ofAmount a) a := by
  intro t laid gap blank rest
  rw [amount, bind_ok (reads_text a.text t laid gap blank rest), a.readAnyRadix_text]
  rfl

theorem reads_flag (b : Bool) : Reads flag (.bool b) b := by
  intro t laid gap blank rest
  rw [laid.bool]
  cases b with
  | true =>
    have opens : opening (gap ++ ('t' :: 'r' :: 'u' :: 'e' :: rest)) = .ok ('t', 't' :: 'r' :: 'u' :: 'e' :: rest) :=
      opening_blank blank rfl _
    exact bind_ok opens _
  | false =>
    have opens : opening (gap ++ ('f' :: 'a' :: 'l' :: 's' :: 'e' :: rest)) =
        .ok ('f', 'f' :: 'a' :: 'l' :: 's' :: 'e' :: rest) := opening_blank blank rfl _
    exact bind_ok opens _

theorem reads_query (q : Query) : Reads query (ofQuery q) q :=
  reads_record (q.swapAdapter, q.tokenOut, q.minAmountOut, q.deadline, q.rawParams, ()) (by decide)
    ⟨rfl, reads_address _, rfl, reads_address _, rfl, reads_amount _, rfl, reads_amount _, rfl, reads_bytes _, trivial⟩
    fun _ => rfl

theorem reads_feeConfig (f : FeeConfig) : Reads feeConfig (ofFeeConfig f) f :=
  reads_record (f.bridgeFee, f.minFee, f.maxFee, ()) (by decide)
    ⟨rfl, reads_amount _, rfl, reads_amount _, rfl, reads_amount _, trivial⟩ fun _ => rfl

theorem reads_bridgeToken (t : BridgeToken) : Reads bridgeToken (ofBridgeToken t) t :=
  reads_record (t.symbol, t.token, ()) (by decide) ⟨rfl, reads_text _, rfl, reads_address _, trivial⟩ fun _ => rfl

theorem reads_destRequest (r : DestRequest) : Reads destRequest (ofDestRequest r) r :=
  reads_record (r.symbol, r.amountIn, ()) (by decide) ⟨rfl, reads_text _, rfl, reads_amount _, trivial⟩ fun _ => rfl

theorem reads_poolToken (t : PoolToken) : Reads poolToken (ofPoolToken t) t :=
  reads_record (t.isWeth, t.token, ()) (by decide) ⟨rfl, reads_flag _, rfl, reads_address _, trivial⟩ fun _ => rfl

theorem reads_poolInfo (p : PoolInfo) : Reads poolInfo (ofPoolInfo p) p :=
  reads_record (p.tokens, p.lpToken, ()) (by decide) ⟨rfl, reads_amount _, rfl, reads_address _, trivial⟩ fun _ => rfl

theorem reads_poolSummary (p : PoolSummary) : Reads poolSummary (ofPoolSummary p) p :=
  reads_record (p.poolAddress, p.tokens, p.lpToken, ()) (by decide)
    ⟨rfl, reads_address _, rfl, reads_array reads_poolToken _, rfl, reads_address _, trivial⟩ fun _ => rfl

end Reader

-- A form as one writer puts it on a line, and the other over several.
def ReadBack (read : Reader α) (form : α → Json) : Prop :=
  ∀ a, Reader.whole read (form a).render = .ok a ∧ Reader.whole read (form a).renderPretty = .ok a

theorem domain_readBack : ReadBack Reader.query ofQuery ∧ ReadBack Reader.feeConfig ofFeeConfig ∧
    ReadBack Reader.bridgeToken ofBridgeToken ∧ ReadBack Reader.destRequest ofDestRequest ∧
    ReadBack Reader.poolToken ofPoolToken ∧ ReadBack Reader.poolInfo ofPoolInfo ∧
    ReadBack Reader.poolSummary ofPoolSummary := by
  refine ⟨?_, ?_, ?_, ?_, ?_, ?_, ?_⟩
  · exact fun q => (Reader.reads_query q).written
  · exact fun f => (Reader.reads_feeConfig f).written
  · exact fun t => (Reader.reads_bridgeToken t).written
  · exact fun r => (Reader.reads_destRequest r).written
  · exact fun t => (Reader.reads_poolToken t).written
  · exact fun p => (Reader.reads_poolInfo p).written
  · exact fun p => (Reader.reads_poolSummary p).written

end RouteQuote.Json
