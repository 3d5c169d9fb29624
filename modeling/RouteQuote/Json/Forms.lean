import RouteQuote.Amount
import RouteQuote.Json.Record
import RouteQuote.Json.Value
import RouteQuote.Router.Read
import RouteQuote.Text.Basic

namespace RouteQuote.Json

def ofAmount (a : Amount) : Json := .string a.text

def ofAddress (a : Address) : Json := .string a.text

def bytesText (bytes : List UInt8) : String := String.ofList ('0' :: 'x' :: Text.hexOfBytes bytes)

def ofBytes (bytes : List UInt8) : Json := .string (bytesText bytes)

def ofQuery (q : Query) : Json := .object [
  ("swapAdapter", ofAddress q.swapAdapter), ("tokenOut", ofAddress q.tokenOut),
  ("minAmountOut", ofAmount q.minAmountOut), ("deadline", ofAmount q.deadline), ("rawParams", ofBytes q.rawParams)]

def ofFeeConfig (f : FeeConfig) : Json := .object [
  ("bridgeFee", ofAmount f.bridgeFee), ("minFee", ofAmount f.minFee), ("maxFee", ofAmount f.maxFee)]

def ofBridgeToken (t : BridgeToken) : Json := .object [("symbol", .string t.symbol), ("token", ofAddress t.token)]

def ofDestRequest (r : DestRequest) : Json := .object [("symbol", .string r.symbol), ("amountIn", ofAmount r.amountIn)]

def ofPoolToken (t : PoolToken) : Json := .object [("isWeth", .bool t.isWeth), ("token", ofAddress t.token)]

def ofPoolInfo (p : PoolInfo) : Json := .object [("tokens", ofAmount p.tokens), ("lpToken", ofAddress p.lpToken)]

def ofPoolSummary (p : PoolSummary) : Json := .object [
  ("poolAddress", ofAddress p.poolAddress), ("tokens", .array (p.tokens.map ofPoolToken)),
  ("lpToken", ofAddress p.lpToken)]

def ofBridgeQuote (q : BridgeQuote) : Json := .object [
  ("feeAmount", ofOption ofAmount q.feeAmount), ("feeConfig", ofOption ofFeeConfig q.feeConfig),
  ("routerAddress", ofAddress q.routerAddress), ("maxAmountOut", ofAmount q.maxAmountOut),
  ("originQuery", ofOption ofQuery q.originQuery), ("destQuery", ofOption ofQuery q.destQuery)]

def ofSwapQuote (q : SwapQuote) : Json := .object [
  ("routerAddress", ofAddress q.routerAddress), ("maxAmountOut", ofAmount q.maxAmountOut), ("query", ofQuery q.query)]

def ofTransaction (t : UnsignedTransaction) : Json := .object [("to", ofAddress t.target), ("data", ofBytes t.data)]

-- A transaction as nodes take it: the data is the input of the call.
def ofTransactionRequest (t : UnsignedTransaction) : Json :=
  .object [("to", ofAddress t.target), ("input", ofBytes t.data)]

def ofAddLiquidityQuote (q : AddLiquidityQuote) : Json :=
  .object [("amount", ofAmount q.amount), ("routerAddress", ofAddress q.routerAddress)]

def ofIndexedAmount (a : IndexedAmount) : Json := .object [("value", ofAmount a.value), ("index", ofNat a.index)]

def ofRemoveLiquidityQuote (q : RemoveLiquidityQuote) : Json := .object [
  ("amounts", .object (q.amounts.map fun (token, amount) => (token.text, ofIndexedAmount amount))),
  ("routerAddress", ofAddress q.routerAddress)]

def ofRemoveLiquidityOneQuote (q : RemoveLiquidityOneQuote) : Json :=
  .object [("amount", ofIndexedAmount q.amount), ("routerAddress", ofAddress q.routerAddress)]

namespace Reader

def amount : Reader Amount := do
  let s ← text
  match Amount.readAnyRadix (Text.trim s.toList) with
  | .ok a => return a
  | .error fault => throw (.unfit fault.message)

def bytesWanted : String :=
  "a variable number of bytes represented as a hex string, an array of u8, or raw bytes"

def bytes : Reader (List UInt8) := do
  let c ← opening
  if c = '"' then
    let s ← text
    match Text.bytesOfHex? (Text.withoutHexMark s.toList) with
    | some bytes => return bytes
    | none => wrongValue (.scalar (.string s)) "a valid hex string"
  else if c = '[' then return (← arrayOf byte).map UInt8.ofNat
  else wrongType (← found) bytesWanted

def addressWanted : String := "20 bytes, represented as a hex string of length 40, an array of u8, or raw bytes"

-- So many bytes of an array of twenty.
def byteItems (first : Bool) : Nat → Reader (List UInt8)
  | 0 => return []
  | n + 1 => do
    if ← hasItem first then
      let b ← byte
      return UInt8.ofNat b :: (← byteItems false n)
    else throw (.unfit s!"invalid length {20 - (n + 1)}, expected exactly 20 bytes")

-- A scalar of which only the end matters: a number that is too great to be held is passed over as well.
def passScalar : Reader Unit := do
  let c ← opening
  match value 1 (← get) with
  | .ok (_, rest) => set rest
  | .error fault => if fault = .malformed ∧ c ≠ '"' then skip else throw fault

-- An item after the twentieth byte is an error only when it is a byte itself; a scalar of any other kind,
-- or a comma with nothing after it, is passed over.
def beyondBytes : Reader Unit := do
  match ← peek with
  | some ',' =>
    advance
    match ← peek with
    | none => return ()
    | some c =>
      if c = ']' ∨ c = '[' ∨ c = '\x7b' then return ()
      match byte (← get) with
      | .ok _ => throw (.unfit "invalid length 21, expected exactly 20 bytes")
      | .error _ => passScalar
  | _ => return ()

def address : Reader Address := do
  let c ← opening
  if c = '"' then
    match Address.read (← text).toList with
    | .ok a => return a
    | .error fault => throw (.unfit fault.message)
  else if c = '[' then
    advance
    let bytes ← byteItems true 20
    beyondBytes
    closeArray
    return Address.ofBytes bytes
  else wrongType (← found) addressWanted

def query : Reader Query := do
  let (swapAdapter, tokenOut, minAmountOut, deadline, rawParams, _) ← record "Query" [
    ⟨"swapAdapter", address, none, none⟩, ⟨"tokenOut", address, none, none⟩, ⟨"minAmountOut", amount, none, none⟩,
    ⟨"deadline", amount, none, none⟩, ⟨"rawParams", bytes, none, none⟩]
  return { swapAdapter, tokenOut, minAmountOut, deadline, rawParams }

def feeConfig : Reader FeeConfig := do
  let (bridgeFee, minFee, maxFee, _) ← record "FeeConfig" [
    ⟨"bridgeFee", amount, none, none⟩, ⟨"minFee", amount, none, none⟩, ⟨"maxFee", amount, none, none⟩]
  return { bridgeFee, minFee, maxFee }

def bridgeToken : Reader BridgeToken := do
  let (symbol, token, _) ← record "BridgeToken" [⟨"symbol", text, none, none⟩, ⟨"token", address, none, none⟩]
  return { symbol, token }

def destRequest : Reader DestRequest := do
  let (symbol, amountIn, _) ← record "DestRequest" [⟨"symbol", text, none, none⟩, ⟨"amountIn", amount, none, none⟩]
  return { symbol, amountIn }

def poolToken : Reader PoolToken := do
  let (isWeth, token, _) ← record "PoolToken" [⟨"isWeth", flag, none, none⟩, ⟨"token", address, none, none⟩]
  return { isWeth, token }

def poolInfo : Reader PoolInfo := do
  let (tokens, lpToken, _) ← record "PoolInfo" [⟨"tokens", amount, none, none⟩, ⟨"lpToken", address, none, none⟩]
  return { tokens, lpToken }

def poolSummary : Reader PoolSummary := do
  let (poolAddress, tokens, lpToken, _) ← record "PoolSummary" [
    ⟨"poolAddress", address, none, none⟩, ⟨"tokens", arrayOf poolToken, none, none⟩, ⟨"lpToken", address, none, none⟩]
  return { poolAddress, tokens, lpToken }

end Reader

end RouteQuote.Json
