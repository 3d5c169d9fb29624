import RouteQuote.CommandLine.Grammar
import RouteQuote.Error
import RouteQuote.Http.Message
import RouteQuote.Json.Forms
import RouteQuote.Log
import RouteQuote.Sdk.Operation
import RouteQuote.Sdk.Quotes
import RouteQuote.Settings.Load
import RouteQuote.Url

namespace RouteQuote.CommandLine

structure Logging where
  filter : Log.Filter
  style : Log.Style

def Logging.lines (l : Logging) (time : String) (entries : List Log.Entry) : List String :=
  (entries.filter fun e => l.filter.shows e.level e.target).map (Log.Entry.line l.style time)

structure Output where
  exitCode : UInt8 := 0
  stdout : List String := []
  stderr : List String := []
deriving DecidableEq, Repr

def Output.ofUsage (usage : Usage) : Output :=
  if usage.exitCode = 0 then { stdout := usage.lines } else { exitCode := usage.exitCode, stderr := usage.lines }

def Output.ofResult (logged : List String) : Except Error String → Output
  | .ok text => { stdout := logged ++ [text] }
  | .error e => { exitCode := 1, stdout := logged, stderr := ["Error: " ++ e.detail] }

-- A command that can be carried out, with what was logged on the way.
structure Job where
  command : Command
  settings : Settings
  sdk : Sdk
  endpoints : List Endpoint
  logging : Logging
  logged : List String

def loggingOf (invocation : Invocation) (settings : Settings) : String × Logging :=
  let spec := Log.filterSpec settings.logFilter
  (spec, ⟨.ofSpec spec, if invocation.logJson || settings.logJson then .json else .compact⟩)

-- Everything before the command itself; what goes wrong there ends the run.
def prepare (env : Environment) (files : Settings.Files) (directory time : String) (arguments : List String) :
    Except Output Job := do
  let invocation ← match parse (env.get? "SYNAPSE_CONFIG").isSome arguments with
    | .ok invocation => pure invocation
    | .error usage => throw (.ofUsage usage)
  let settings ← match Settings.load Settings.Format.read env files directory invocation.config with
    | .ok settings => pure settings
    | .error e => throw (.ofResult [] (.error e))
  let env := Settings.environment env files
  let (spec, logging) := loggingOf invocation settings
  let logged := logging.lines time (Log.started spec logging.style :: Log.ofConnect settings Url.rule env)
  match settings.connect Url.rule env, settings.endpoints Url.rule env with
  | .ok sdk, .ok endpoints => return ⟨invocation.command, settings, sdk, endpoints, logging, logged⟩
  | .error e, _ | _, .error e => throw (.ofResult logged (.error e))

-- The plan of a command that asks routers: its answer, and what is logged about it.
def planOf (sdk : Sdk) : Command → Plan (Json × List Log.Entry)
  | .serve _ => return (.null, [])
  | .swapQuote chain tokenIn tokenOut amount deadline => do
    let tokenIn ← Input.address tokenIn
    let tokenOut ← Input.address tokenOut
    let amount ← Input.amount "amount" amount
    let quote ← sdk.swapQuote chain tokenIn tokenOut amount (deadline.map Amount.ofWord)
    return (Json.ofSwapQuote quote, [])
  | .bridgeQuote origin dest tokenIn tokenOut amount deadline => do
    let tokenIn ← Input.address tokenIn
    let tokenOut ← Input.address tokenOut
    let amount ← Input.amount "amount" amount
    let quote ← sdk.bridgeQuote origin dest tokenIn tokenOut amount (deadline.map Amount.ofWord)
    return (Json.ofBridgeQuote quote, if quote.hasRoute then [] else [Log.routeless origin dest])
  | .pools chain => do
    let pools ← sdk.allPools chain
    return (.array (pools.map Json.ofPoolSummary), [])
  | .bridgeGas chain => do
    let gas ← sdk.bridgeGas chain
    return (Json.ofAmount gas, [])

namespace Job

-- The address to serve at, if that is what the command asks for.
def bind? (job : Job) : Option String :=
  match job.command with
  | .serve bind => some (bind.getD job.settings.httpBind)
  | _ => none

def refused (job : Job) (fault : ConfigFault) : Output := .ofResult job.logged (.error (.config fault))

def plan (job : Job) : Plan (Json × List Log.Entry) := planOf job.sdk job.command

def output (job : Job) (time : String) (events : List Event) (result : Except Error (Json × List Log.Entry)) : Output :=
  let entries := match result with
    | .ok (_, entries) => entries
    | .error _ => []
  let logged := job.logged ++ job.logging.lines time (events.filterMap Log.ofEvent ++ entries)
  .ofResult logged (result.map fun (answer, _) => answer.renderPretty)

-- Carries out a command; serving is looked at only as far as the address goes.
def run (job : Job) (backend : Backend σ) (time : String) (s : σ) : Output × List Event × σ :=
  match job.bind? with
  | some target =>
    match Http.bindAddress target with
    | .ok _ => ({ stdout := job.logged }, [], s)
    | .error fault => (job.refused fault, [], s)
  | none =>
    let outcome := job.plan.run backend s
    (job.output time outcome.events outcome.result, outcome.events, outcome.state)

end Job

end RouteQuote.CommandLine
