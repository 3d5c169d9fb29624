import RouteQuote.Chain
import RouteQuote.Environment
import RouteQuote.Input
import RouteQuote.Sdk.Basic

namespace RouteQuote

-- Texts by chain identifier; of several for one the last counts.
abbrev ChainTexts := List (String × String)

structure Settings where
  debug : Bool := false
  logJson : Bool := false
  logLevel : Option String := none
  chains : List ChainId := Chain.defaultIds
  rpcUrls : Option ChainTexts := none
  routerAddresses : Option ChainTexts := none
  nativeTokens : Option ChainTexts := none
  httpBind : String := "0.0.0.0:3000"
  deadlineSecs : UInt64 := Chain.defaultDeadlineSecs
deriving DecidableEq, Repr

namespace Settings

def textFor (texts : Option ChainTexts) (chain : ChainId) : Option String :=
  texts.bind fun texts => texts.reverse.lookup (toString chain)

-- The level asked for, else the one that the debug switch chooses.
def logFilter (s : Settings) : String := s.logLevel.getD (if s.debug then "debug" else "info")

-- The endpoint that is set, else the one in the environment, else the public one.
def rpcUrl (s : Settings) (env : Environment) (chain : ChainId) : Except Error String :=
  match (textFor s.rpcUrls chain).or (env.nonBlank? s!"rpc_url_{chain}") with
  | some url => .ok url
  | none =>
    match Chain.defaults? chain with
    | some defaults => .ok defaults.rpcUrl
    | none => .error (.config (.noRpcUrl chain))

def routerAddress (s : Settings) (chain : ChainId) : Except Error Address :=
  match textFor s.routerAddresses chain with
  | some raw => Input.address raw
  | none => .ok (Chain.router chain)

def nativeToken (s : Settings) (chain : ChainId) : Except Error (Option Address) :=
  match textFor s.nativeTokens chain with
  | some raw => some <$> Input.address raw
  | none => .ok none

end Settings

-- Where a chain's router is, and where it is asked.
structure Endpoint where
  chain : ChainId
  router : Address
  url : String
deriving DecidableEq, Repr

-- Says of a text that it is a URL, or why it is none. The settings go by any such rule.
abbrev UrlRule := String → Except String Unit

def UrlRule.checked (rule : UrlRule) (url : String) : Except Error Unit :=
  match rule url with
  | .ok () => .ok ()
  | .error reason => .error (.config (.rpcUrl url reason))

namespace Settings

def endpoint (s : Settings) (rule : UrlRule) (env : Environment) (chain : ChainId) : Except Error Endpoint := do
  let url ← s.rpcUrl env chain
  let router ← s.routerAddress chain
  rule.checked url
  return ⟨chain, router, url⟩

def endpoints (s : Settings) (rule : UrlRule) (env : Environment) : Except Error (List Endpoint) :=
  s.chains.mapM (s.endpoint rule env)

-- Sets the token that stands for a chain's own coin, if the settings name one.
def overrideNative (s : Settings) (sdk : Sdk) (chain : ChainId) : Except Error Sdk := do
  match ← s.nativeToken chain with
  | some token => sdk.withNativeToken chain token
  | none => return sdk

-- The connection of each router is the position of its chain in the settings.
def connect (s : Settings) (rule : UrlRule) (env : Environment) : Except Error Sdk := do
  let endpoints ← s.endpoints rule env
  let routers := endpoints.zipIdx.map fun (e, link) => (⟨link, e.chain, e.router⟩ : Router)
  let sdk ← Sdk.ofRouters s.chains routers
  s.chains.foldlM s.overrideNative (sdk.withDeadlineSecs s.deadlineSecs)

end Settings

end RouteQuote
