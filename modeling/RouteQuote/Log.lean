import RouteQuote.Address
import RouteQuote.Json.Value
import RouteQuote.Router.Plan
import RouteQuote.Settings.Basic
import RouteQuote.Text.Basic
import RouteQuote.Text.Printing

namespace RouteQuote.Log

inductive Level where
  | error
  | warn
  | info
  | debug
  | trace
deriving DecidableEq, Repr

namespace Level

def name : Level → String
  | .error => "ERROR"
  | .warn => "WARN"
  | .info => "INFO"
  | .debug => "DEBUG"
  | .trace => "TRACE"

-- Greater ranks are shown less often.
def rank : Level → Nat
  | .error => 1
  | .warn => 2
  | .info => 3
  | .debug => 4
  | .trace => 5

end Level

-- The greatest rank that is shown; zero shows nothing.
abbrev Limit := Nat

-- A limit by its name in any case, or by its digit.
def limit? (s : String) : Option Limit :=
  match String.ofList (s.toList.map Char.toLower) with
  | "off" | "0" => some 0
  | "error" | "1" => some 1
  | "warn" | "2" => some 2
  | "info" | "3" => some 3
  | "debug" | "4" => some 4
  | "trace" | "5" => some 5
  | _ => none

inductive Value where
  | number (n : Nat)
  | text (s : String)
  | plain (s : String)
deriving DecidableEq, Repr

structure Entry where
  level : Level
  target : String
  message : String
  fields : List (String × Value) := []
deriving DecidableEq, Repr

inductive Style where
  | compact
  | json
deriving DecidableEq, Repr

def Style.name : Style → String
  | .compact => "compact"
  | .json => "json"

namespace Value

def compact : Value → String
  | .number n => toString n
  | .text s => Text.quoted s
  | .plain s => s

def toJson : Value → Json
  | .number n => .ofNat n
  | .text s | .plain s => .string s

end Value

namespace Entry

-- The name of a level, with blanks before it so that all have one width.
def levelText (level : Level) : String := String.ofList (List.replicate (5 - level.name.length) ' ') ++ level.name

def compact (time : String) (e : Entry) : String :=
  let fields := e.fields.map fun (key, value) => s!" {key}={value.compact}"
  s!"{time} {levelText e.level} {e.target}: {e.message}" ++ String.join fields

def toJson (time : String) (e : Entry) : Json := .object [
  ("timestamp", .string time), ("level", .string e.level.name),
  ("fields", .object (("message", .string e.message) :: e.fields.map fun (key, value) => (key, value.toJson)))]

def line (style : Style) (time : String) (e : Entry) : String :=
  match style with
  | .compact => e.compact time
  | .json => (e.toJson time).render

end Entry

def quietTransports : String :=
  "h2=info,hyper=info,hyper_util=info,reqwest=info,alloy_transport_http=info,alloy_rpc_client=info,tower_http=info"

def filterSpec (level : String) : String :=
  let level := Text.trimmed level
  if level = "" then "info," ++ quietTransports
  else if level.toList.any fun c => c = ',' ∨ c = '=' then level
  else level ++ "," ++ quietTransports

-- A limit for the targets that begin with a text; the empty text is the beginning of all.
structure Directive where
  target : String := ""
  limit : Limit
deriving DecidableEq, Repr

abbrev Filter := List Directive

namespace Filter

-- One part: a limit, a target, or both with an equals sign between them.
def directive? (part : String) : Option Directive :=
  let part := Text.trimmed part
  match Text.splitOnce '=' part.toList with
  | none =>
    match limit? part with
    | some limit => some ⟨"", limit⟩
    | none =>
      match part.toList.head? with
      | some c => if c.isAlphanum || c == '-' || c == ':' || c == '_' then some ⟨part, Level.trace.rank⟩ else none
      | none => none
  | some (target, limit) =>
    let limit := Text.trimmed (String.ofList limit)
    if limit = "" then some ⟨String.ofList target, Level.trace.rank⟩
    else (limit? limit).map fun limit => ⟨String.ofList target, limit⟩

def parse? (spec : String) : Option Filter :=
  ((Text.split ',' spec.toList).filter (!·.isEmpty)).mapM fun part => directive? (String.ofList part)

-- The filter of a text; one that cannot be read shows what an empty one would not hide.
def ofSpec (spec : String) : Filter := (parse? spec).getD [⟨"", Level.info.rank⟩]

-- Keeps the longer target; of two equal ones the later directive counts.
def closer (best : Option Directive) (d : Directive) : Option Directive :=
  match best with
  | none => some d
  | some b => if b.target.length ≤ d.target.length then some d else some b

def limitFor (filter : Filter) (target : String) : Limit :=
  if filter.isEmpty then Level.error.rank
  else match (filter.filter fun d => target.startsWith d.target).foldl closer none with
    | some d => d.limit
    | none => 0

def shows (filter : Filter) (level : Level) (target : String) : Bool := level.rank ≤ filter.limitFor target

end Filter

open Value in
def ofEvent : Event → Option Entry
  | .clocked _ => none
  | .asked router question => some ⟨.debug, "router", "Router call", [
      ("chain_id", number router.chainId.toNat), ("router", plain router.address.checksumText),
      ("call", text question.call)]⟩
  | .refused router question reason => some ⟨.debug, "router", "Router call failed", [
      ("chain_id", number router.chainId.toNat), ("call", text question.call), ("error", plain reason)]⟩
  | .routeless origin dest candidates => some ⟨.info, "sdk", "No bridge route beats zero output", [
      ("origin", number origin.toNat), ("dest", number dest.toNat), ("candidates", number candidates)]⟩
  | .selected origin dest symbol maxAmountOut feeAmount => some ⟨.debug, "sdk", "Selected bridge route", [
      ("origin", number origin.toNat), ("dest", number dest.toNat), ("symbol", plain symbol),
      ("max_amount_out", plain maxAmountOut.text), ("fee_amount", plain feeAmount.text)]⟩

def started (spec : String) (style : Style) : Entry :=
  let base := String.ofList ((Text.split ',' spec.toList).headD [])
  ⟨.info, "synapse_router::app::logging", s!"Logging initialized\n  base: {base}\n  format: {style.name}", []⟩

open Value in
def configured (e : Endpoint) : Entry := ⟨.info, "config", "Configured router client", [
  ("chain_id", number e.chain.toNat), ("chain", text (Chain.name e.chain)),
  ("router", plain e.router.checksumText), ("rpc", plain e.url)]⟩

def initialized (chains : List ChainId) : Entry :=
  let ids := ", ".intercalate (chains.map toString)
  ⟨.info, "sdk", "Synapse SDK initialized", [("chains", .plain s!"[{ids}]")]⟩

open Value in
def routeless (origin dest : ChainId) : Entry :=
  ⟨.warn, "synapse_router", "No bridge route found", [
    ("from_chain", number origin.toNat), ("to_chain", number dest.toNat)]⟩

-- What connecting logs: every endpoint before the first that fails, and the chains when none does.
def ofConnect (s : Settings) (rule : UrlRule) (env : Environment) : List Entry :=
  let endpoints := s.chains.map (s.endpoint rule env)
  let made := (endpoints.takeWhile Except.isOk).filterMap Except.toOption
  let ids := (Keyed.ofList UInt64.toNat (s.chains.map fun chain => (chain, ()))).map Prod.fst
  made.map configured ++ if made.length = s.chains.length then [initialized ids] else []

end RouteQuote.Log
