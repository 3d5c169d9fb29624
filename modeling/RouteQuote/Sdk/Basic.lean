import RouteQuote.Chain
import RouteQuote.Router.Plan

namespace RouteQuote

structure Sdk where
  registry : Registry
  deadlineSecs : UInt64 := Chain.defaultDeadlineSecs
deriving DecidableEq, Repr

-- The clock plus the lifetime, which stops at the greatest 64-bit number.
def dueAt (now lifetime : UInt64) : Amount := .ofNat (min (now.toNat + lifetime.toNat) (UInt64.size - 1))

-- The deadline asked for; the clock is read only where none is.
def resolveDeadline (lifetime : UInt64) : Option Amount → Plan Amount
  | some deadline => return deadline
  | none => return dueAt (← Plan.now) lifetime

namespace Sdk

def ofRouters (chains : List ChainId) (routers : List Router) : Except Error Sdk := do
  return { registry := ← Registry.ofRouters chains routers }

-- A router at the known address of each chain, over one connection each.
def ofLinks (chains : List ChainId) (links : List Nat) : Except Error Sdk :=
  if chains.length = links.length then
    ofRouters chains (List.zipWith (fun chain link => ⟨link, chain, Chain.router chain⟩) chains links)
  else .error (.chainCountMismatch chains.length links.length)

def withNativeToken (sdk : Sdk) (chain : ChainId) (token : Address) : Except Error Sdk :=
  match sdk.registry.setNativeToken chain token with
  | (.ok (), registry) => .ok { sdk with registry }
  | (.error e, _) => .error e

def withDeadlineSecs (sdk : Sdk) (secs : UInt64) : Sdk := { sdk with deadlineSecs := secs }

def router (sdk : Sdk) (chain : ChainId) : Except Error Router := sdk.registry.router chain

end Sdk

namespace Sdk

end Sdk

-- A list of answers has one entry for each request.
def ensureCount (chain : ChainId) (call : String) (results requests : Nat) : Except Error Unit :=
  if results = requests then .ok () else .error (.contract chain call (.countMismatch results requests))

end RouteQuote
