import RouteQuote.Proofs.Input.Addresses
import RouteQuote.Proofs.Sdk.Adjustment
import RouteQuote.Settings.Basic
import RouteQuote.Url

namespace RouteQuote

namespace Environment

variable {env : Environment} {name value : String}

theorem nonBlank?_eq_some :
    env.nonBlank? name = some value ↔
      ∃ raw, env.get? name = some raw ∧ Text.trimmed raw ≠ "" ∧ Text.trimmed raw = value := by
  unfold nonBlank?
  rw [Option.bind_eq_some_iff]
  simp

theorem nonBlank?_eq_none : env.nonBlank? name = none ↔ ∀ raw, env.get? name = some raw → Text.trimmed raw = "" := by
  unfold nonBlank?
  rw [Option.bind_eq_none_iff]
  simp

end Environment

namespace Settings

variable {s : Settings} {rule : UrlRule} {env : Environment} {chain : ChainId} {url raw : String} {text : Option String}
  {fallback a : Address} {e : Error} {sdk : Sdk}

def Readable (text : Option String) : Prop := ∀ raw, text = some raw → ∃ a, Input.address raw = .ok a

instance : DecidablePred Readable
  | none => isTrue nofun
  | some raw =>
    match read : Input.address raw with
    | .ok a => isTrue fun _ same => ⟨a, Option.some.inj same ▸ read⟩
    | .error _ => isFalse fun readable => nomatch read.symm.trans (readable raw rfl).choose_spec

def urlVariable (chain : ChainId) : String := s!"rpc_url_{chain}"

-- Each router stands at the position of its chain, over the connection of that number.
def routersOf (endpoints : List Endpoint) : List Router :=
  endpoints.zipIdx.map fun (e, link) => ⟨link, e.chain, e.router⟩

section

variable {one two : Settings} {oneEnv twoEnv : Environment}

end

-- The first chain's coin cannot be read, and of the second one neither the router nor the endpoint.
def faulty : Settings where
  chains := [5, 10, 5, 1]
  rpcUrls := some [("5", "node:five"), ("10", "no url")]
  routerAddresses := some [("10", " nowhere ")]
  nativeTokens := some [("5", "nothing")]

def coinText : String := " 0x00000000000000000000000000000000000000c0 "

def sound : Settings where
  chains := [10, 5, 10]
  rpcUrls := some [("5", "node:five")]
  routerAddresses := some [("10", coinText)]
  nativeTokens := some [("5", coinText)]
  deadlineSecs := 60

end Settings

end RouteQuote
