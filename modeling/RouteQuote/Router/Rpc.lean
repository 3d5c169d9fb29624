import RouteQuote.Abi.Router
import RouteQuote.Json.Forms
import RouteQuote.Json.Reader
import RouteQuote.Json.Value
import RouteQuote.Router.Plan

namespace RouteQuote.Rpc

structure Request where
  function : String
  target : Address
  data : List UInt8
deriving DecidableEq, Repr

-- What comes back: a result, an error that the node reports, or nothing but a failure on the way.
inductive Reply where
  | result (value : Json)
  | error (code : Int) (message : String) (data : Option Json)
  | failure (message : String)
deriving Inhabited

inductive Fault where
  | failure (message : String)
  | reported (code : Int) (message : String) (data : Option Json)
  | notBytes (message : String) (value : Json)
  | noData (function : String)
  | abi (fault : Abi.Fault)

def Fault.message : Fault → String
  | .failure message => message
  | .reported code message data =>
    s!"server returned an error response: error code {code}: {message}" ++
      match data with
      | some data => ", data: " ++ data.render
      | none => ""
  | .notBytes message value =>
    let text := value.render
    s!"deserialization error: {message} at line 1 column {text.utf8ByteSize}\n{text}"
  | .noData function =>
    s!"contract call to `{function}` returned no data (\"0x\"); the called address might not be a contract"
  | .abi fault => fault.message

def bytesOf : Reply → Except Fault (List UInt8)
  | .failure message => .error (.failure message)
  | .error code message data => .error (.reported code message data)
  | .result value =>
    match Json.Reader.whole Json.Reader.bytes value.render with
    | .ok bytes => .ok bytes
    | .error (.unfit message) => .error (.notBytes message value)
    | .error _ => .error (.notBytes "" value)

-- The results of a function; data that is no result is told apart from no data.
def results (f : Abi.Function) (reply : Reply) : Except Fault f.outputs.Value := do
  let data ← bytesOf reply
  match f.decodeResults data with
  | .ok v => return v
  | .error fault => throw (if data.isEmpty then .noData f.name else .abi fault)

def functionOf : Read → Abi.Function
  | .connectedBridgeTokens _ => Abi.getConnectedBridgeTokens
  | .originAmountOut .. => Abi.getOriginAmountOut
  | .destinationAmountOut .. => Abi.getDestinationAmountOut
  | .amountOut .. => Abi.getAmountOut
  | .bridgeFee .. => Abi.calculateBridgeFee
  | .fee _ => Abi.fee
  | .bridgeAddress => Abi.synapseBridge
  | .gasAmount _ => Abi.chainGasAmount
  | .poolTokens _ => Abi.poolTokens
  | .poolInfo _ => Abi.poolInfo
  | .allPools => Abi.allPools
  | .addLiquidity .. => Abi.calculateAddLiquidity
  | .removeLiquidity .. => Abi.calculateRemoveLiquidity
  | .withdrawOne .. => Abi.calculateWithdrawOneToken

def arguments : (question : Read) → (functionOf question).inputs.Value
  | .connectedBridgeTokens tokenOut => (tokenOut, ())
  | .originAmountOut tokenIn symbols amountIn => (tokenIn, symbols, amountIn, ())
  | .destinationAmountOut requests tokenOut => (requests.map Abi.ofDestRequest, tokenOut, ())
  | .amountOut tokenIn tokenOut amountIn => (tokenIn, tokenOut, amountIn, ())
  | .bridgeFee token amount => (token, amount, ())
  | .fee token => (token, ())
  | .bridgeAddress => ()
  | .gasAmount _ => ()
  | .poolTokens pool => (pool, ())
  | .poolInfo pool => (pool, ())
  | .allPools => ()
  | .addLiquidity pool amounts => (pool, amounts, ())
  | .removeLiquidity pool amount => (pool, amount, ())
  | .withdrawOne pool amount index => (pool, amount, Amount.ofNat index.toNat, ())

def answerOf : (question : Read) → (functionOf question).outputs.Value → question.Answer
  | .connectedBridgeTokens _, v => v.1.map Abi.toBridgeToken
  | .originAmountOut .., v => v.1.map Abi.toQuery
  | .destinationAmountOut .., v => v.1.map Abi.toQuery
  | .amountOut .., v => Abi.toQuery v.1
  | .bridgeFee .., v => v.1
  | .fee _, v => ⟨v.1, v.2.1, v.2.2.1⟩
  | .bridgeAddress, v => v.1
  | .gasAmount _, v => v.1
  | .poolTokens _, v => v.1.map Abi.toPoolToken
  | .poolInfo _, v => ⟨v.1, v.2.1⟩
  | .allPools, v => v.1.map Abi.toPool
  | .addLiquidity .., v => v.1
  | .removeLiquidity .., v => v.1
  | .withdrawOne .., v => v.1

-- The router is called, except for the gas amount, which the bridge contract knows.
def target (router : Router) : Read → Address
  | .gasAmount bridge => bridge
  | _ => router.address

def request (router : Router) (question : Read) : Request :=
  ⟨question.call, target router question, (functionOf question).calldata (arguments question)⟩

def answer (question : Read) (reply : Reply) : Except String question.Answer :=
  match results (functionOf question) reply with
  | .ok v => .ok (answerOf question v)
  | .error fault => .error fault.message

-- Carries requests to nodes, each over the connection of its router; the clock is the one on this side.
structure Transport (σ : Type) where
  send : Nat → Request → σ → Reply × σ
  timing : Nat → Request → Request → σ → Timing
  clock : σ → UInt64 × σ

def Transport.backend (transport : Transport σ) : Backend σ where
  answer router question s :=
    let (reply, s) := transport.send router.link (request router question) s
    (answer question reply, s)
  timing router one two s := transport.timing router.link (request router one) (request router two) s
  clock := transport.clock

def Request.message (r : Request) (id : Nat) : Json := .object [
  ("method", .string "eth_call"),
  ("params", .array [.object [("to", Json.ofAddress r.target), ("input", Json.ofBytes r.data)], .string "latest"]),
  ("id", .ofNat id), ("jsonrpc", .string "2.0")]

def Reply.unreachable (url : String) : Reply := .failure s!"error sending request for url ({url})"

def Reply.ofMessage (text : String) : Reply :=
  match Json.parse text with
  | .error _ => .failure "the reply is no JSON text"
  | .ok message =>
    match message.get? "error", message.get? "result" with
    | some fault, _ =>
      match fault.get? "code", fault.get? "message" with
      | some (.int code), some (.string text) => .error code text (fault.get? "data")
      | _, _ => .failure "the error in the reply has no code or no message"
    | none, some value => .result value
    | none, none => .failure "the reply has neither a result nor an error"

end RouteQuote.Rpc
