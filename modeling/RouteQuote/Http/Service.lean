import RouteQuote.Error
import RouteQuote.Input
import RouteQuote.Json.Forms
import RouteQuote.Json.Value
import RouteQuote.Sdk.Quotes
import RouteQuote.Text.Basic
import RouteQuote.Text.Bytes

namespace RouteQuote

namespace Error

def status : Error → Nat
  | .noRoute .. | .unsupportedChain _ | .invalidAddress _ | .validation .. => 400
  | .contract .. => 502
  | .config _ | .chainCountMismatch .. | .unknown _ => 500

def code : Error → String
  | .noRoute .. => "NO_ROUTE"
  | .unsupportedChain _ => "UNSUPPORTED_CHAIN"
  | .invalidAddress _ | .validation .. => "VALIDATION_ERROR"
  | .contract .. => "CONTRACT_ERROR"
  | .config _ | .chainCountMismatch .. | .unknown _ => "INTERNAL_ERROR"

end Error

namespace Http

structure Response where
  status : Nat
  contentType : Option String := none
  allow : Option String := none
  body : String := ""
deriving DecidableEq, Repr

namespace Response

def ofJson (status : Nat) (j : Json) : Response := ⟨status, some "application/json", none, j.render⟩

def ofError (time : Nat) (e : Error) : Response :=
  ofJson e.status (.object [("error", .string e.code), ("message", .string e.message), ("timestamp", .ofNat time)])

def notFound : Response := { status := 404 }

def wrongMethod : Response := { status := 405, allow := some "GET,HEAD" }

-- The answer to a value of the path that is not text.
def notText (name : String) : Response :=
  { status := 400, contentType := some "text/plain; charset=utf-8"
    body := s!"Invalid URL: Invalid UTF-8 in `{name}`" }

def withoutBody (r : Response) : Response := { r with body := "" }

end Response

end Http

end RouteQuote

namespace RouteQuote.Http

inductive Route (α : Type) where
  | chains
  | swap (chain tokenIn tokenOut amount : α)
  | bridge (origin dest tokenIn tokenOut amount : α)
deriving DecidableEq, Repr

namespace Route

def ofPath? (path : List Char) : Option (Route (List Char)) :=
  match (Text.split '/' path).map String.ofList, Text.split '/' path with
  | ["", ""], _ => some .chains
  | "" :: "swap" :: _, [_, _, chain, tokenIn, tokenOut, amount] =>
    if amount.isEmpty then none else some (.swap chain tokenIn tokenOut amount)
  | "" :: "bridge" :: _, [_, _, origin, dest, tokenIn, tokenOut, amount] =>
    if amount.isEmpty then none else some (.bridge origin dest tokenIn tokenOut amount)
  | _, _ => none

-- The text of a segment, or the name of the value that is not text.
def decoded (name : String) (segment : List Char) : Except String String :=
  match Text.utf8? (Text.percentDecode (Text.utf8Bytes (String.ofList segment))) with
  | some s => .ok s
  | none => .error name

-- The values as texts; the first that is not text is named.
def decode : Route (List Char) → Except String (Route String)
  | .chains => .ok .chains
  | .swap chain tokenIn tokenOut amount => do
    return .swap (← decoded "chain" chain) (← decoded "from_token" tokenIn) (← decoded "to_token" tokenOut)
      (← decoded "amount" amount)
  | .bridge origin dest tokenIn tokenOut amount => do
    return .bridge (← decoded "from_chain" origin) (← decoded "to_chain" dest) (← decoded "from_token" tokenIn)
      (← decoded "to_token" tokenOut) (← decoded "amount" amount)

end Route

inductive Method where
  | get
  | head
  | other
deriving DecidableEq, Repr

def Method.ofName (name : String) : Method :=
  if name = "GET" then .get else if name = "HEAD" then .head else .other

def chainList (sdk : Sdk) : Except Error Json := do
  let chains ← sdk.registry.ids.mapM fun chain => do
    let router ← sdk.router chain
    return .object [("chain_id", .ofNat chain.toNat), ("name", .string (Chain.name chain)),
      ("router_address", Json.ofAddress router.address)]
  return .array chains

def quote (sdk : Sdk) : Route String → Plan Json
  | .chains => chainList sdk
  | .swap chain tokenIn tokenOut amount => do
    let chain ← Input.chainId "chain" chain
    let tokenIn ← Input.address tokenIn
    let tokenOut ← Input.address tokenOut
    let amount ← Input.amount "amount" amount
    return Json.ofSwapQuote (← sdk.swapQuote chain tokenIn tokenOut amount none)
  | .bridge origin dest tokenIn tokenOut amount => do
    let origin ← Input.chainId "fromChain" origin
    let dest ← Input.chainId "toChain" dest
    let tokenIn ← Input.address tokenIn
    let tokenOut ← Input.address tokenOut
    let amount ← Input.amount "amount" amount
    return Json.ofBridgeQuote (← sdk.bridgeQuote origin dest tokenIn tokenOut amount none)

-- What a request comes to: a response, or a plan whose result is the response.
inductive Task where
  | respond (response : Response)
  | carryOut (plan : Plan Json)

def Task.ofRoute (sdk : Sdk) (method : Method) (route : Route (List Char)) : Task :=
  match method with
  | .other => .respond .wrongMethod
  | .get | .head =>
    match route.decode with
    | .error name => .respond (.notText name)
    | .ok route => .carryOut (quote sdk route)

def Task.ofPath (sdk : Sdk) (method : Method) (path : List Char) : Task :=
  match Route.ofPath? path with
  | none => .respond .notFound
  | some route => .ofRoute sdk method route

-- A response, what happened on the way to it, and the state the routers were left in.
structure Handled (σ : Type) where
  response : Response
  events : List Event
  state : σ

-- An error is dated when the response is made, by a reading of the clock of its own.
def Task.run (backend : Backend σ) (s : σ) : Task → Handled σ
  | .respond response => ⟨response, [], s⟩
  | .carryOut plan =>
    let outcome := plan.run backend s
    match outcome.result with
    | .ok j => ⟨.ofJson 200 j, outcome.events, outcome.state⟩
    | .error e =>
      let (now, s) := backend.clock outcome.state
      ⟨.ofError now.toNat e, outcome.events ++ [.clocked now], s⟩

def handle (sdk : Sdk) (backend : Backend σ) (method : Method) (path : List Char) (s : σ) : Handled σ :=
  let handled := (Task.ofPath sdk method path).run backend s
  if method = .head then { handled with response := handled.response.withoutBody } else handled

end RouteQuote.Http
