import RouteQuote.Address
import RouteQuote.Amount
import RouteQuote.Error
import RouteQuote.Keyed
import RouteQuote.Router.Read

namespace RouteQuote.Chain

structure Defaults where
  name : String
  rpcUrl : String
  router : Address
deriving DecidableEq, Repr

def sharedRouter : Address := .ofNat 0x7E7A0e201FD38d3ADAA9523Da6C109a07118C96a

-- How many seconds a quote lives when nothing else is said.
def defaultDeadlineSecs : UInt64 := 600

-- Identifier, name and endpoint, in ascending order.
def endpoints : List (ChainId × String × String) := [
  (1, "ethereum", "https://rpc.ankr.com/eth"),
  (10, "optimism", "https://rpc.ankr.com/optimism"),
  (25, "cronos", "https://evm-cronos.crypto.org"),
  (56, "bsc", "https://bsc-dataseed1.ninicoin.io/"),
  (137, "polygon", "https://rpc-mainnet.matic.quiknode.pro"),
  (250, "fantom", "https://rpc.ftm.tools"),
  (288, "boba", "https://replica-oolong.boba.network/"),
  (1088, "metis", "https://andromeda.metis.io/?owner=1088"),
  (1284, "moonbeam", "https://rpc.api.moonbeam.network"),
  (1285, "moonriver", "https://rpc.api.moonriver.moonbeam.network"),
  (2000, "dogechain", "https://rpc.ankr.com/dogechain"),
  (7700, "canto", "https://mainnode.plexnode.org:8545"),
  (8217, "klaytn", "https://klaytn.blockpi.network/v1/rpc/public"),
  (42161, "arbitrum", "https://arb1.arbitrum.io/rpc"),
  (43114, "avalanche", "https://api.avax.network/ext/bc/C/rpc"),
  (53935, "dfk", "https://subnets.avax.network/defi-kingdoms/dfk-chain/rpc"),
  (1313161554, "aurora", "https://mainnet.aurora.dev"),
  (1666600000, "harmony", "https://harmony-mainnet.chainstacklabs.com")]

def known : List (ChainId × Defaults) := endpoints.map fun (id, name, url) => (id, ⟨name, url, sharedRouter⟩)

def defaults? (chain : ChainId) : Option Defaults := (known.find? (·.1 == chain)).map Prod.snd

def name (chain : ChainId) : String := ((defaults? chain).map Defaults.name).getD "unknown"

def router (chain : ChainId) : Address := ((defaults? chain).map Defaults.router).getD sharedRouter

-- The chains of a configuration that names none.
def defaultIds : List ChainId := [42161, 43114]

end RouteQuote.Chain

namespace RouteQuote

def Address.isNativePlaceholder (token : Address) : Bool := token == .zero || token == .sentinel

structure ChainEntry where
  router : Router
  nativeToken : Address := .sentinel
deriving DecidableEq, Repr

structure Registry where
  chains : List (ChainId × ChainEntry) := []
deriving DecidableEq, Repr

namespace Registry

def empty : Registry := {}

-- One router for each chain, in the order given; of several for one chain the last stays.
def ofRouters (chains : List ChainId) (routers : List Router) : Except Error Registry :=
  if chains.length = routers.length then
    .ok ⟨Keyed.ofList UInt64.toNat (chains.zip (routers.map fun r => { router := r }))⟩
  else .error (.chainCountMismatch chains.length routers.length)

def entry (r : Registry) (chain : ChainId) : Except Error ChainEntry :=
  match Keyed.get? chain r.chains with
  | some e => .ok e
  | none => .error (.unsupportedChain chain)

def router (r : Registry) (chain : ChainId) : Except Error Router := ChainEntry.router <$> r.entry chain

def nativeToken (r : Registry) (chain : ChainId) : Except Error Address := ChainEntry.nativeToken <$> r.entry chain

def withCoin (r : Registry) (chain : ChainId) (token : Address) : Registry :=
  ⟨Keyed.modify chain (fun e => { e with nativeToken := token }) r.chains⟩

-- How it went, and the registry afterwards.
def setNativeToken (r : Registry) (chain : ChainId) (token : Address) : Except Error Unit × Registry :=
  match r.entry chain with
  | .ok _ => (.ok (), r.withCoin chain token)
  | .error e => (.error e, r)

-- A placeholder becomes the address of the chain's own coin, any other token stays.
def normalize (r : Registry) (chain : ChainId) (token : Address) : Except Error Address :=
  if token.isNativePlaceholder then r.nativeToken chain else .ok token

def ids (r : Registry) : List ChainId := r.chains.map Prod.fst

end Registry

end RouteQuote
