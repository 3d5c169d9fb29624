import RouteQuote.Json.Record
import RouteQuote.Settings.Basic
import RouteQuote.Settings.Node
import RouteQuote.Text.Lowercase
import RouteQuote.Text.Printing

namespace RouteQuote.Settings

open Json.Reader in
def readChainIds : Json.Reader (List ChainId) := do
  let wanted := "a sequence of chain ids or a string with comma-separated ids"
  match ← found with
  | .sequence => return (← arrayOf (natural UInt64.size "u64")).map UInt64.ofNat
  | .scalar (.string s) =>
    match Input.chainList s with
    | .ok chains => return chains
    | .error fault => throw (.unfit (Error.config fault).message)
  | .scalar (.int n) => if 0 ≤ n then return [UInt64.ofNat n.toNat] else wrongType (.scalar (.int n)) wanted
  | other => wrongType other wanted

def defaulted (key : String) (read : Json.Reader α) (value : α) : Json.Field :=
  ⟨key, read, some value, some value⟩

-- A field that may be left out of an object, but not of an array.
def omittable (key : String) (read : Json.Reader α) : Json.Field := ⟨key, Json.Reader.optional read, some none, none⟩

open Json.Reader in
def reader : Json.Reader Settings := do
  let none : Settings := {}
  let texts := mapOf text
  let (debug, logJson, logLevel, chains, rpcUrls, routerAddresses, nativeTokens, httpBind, deadlineSecs, _) ←
    record "Settings" [
      defaulted "debug" flag none.debug, defaulted "log_json" flag none.logJson, omittable "log_level" text,
      defaulted "chains" readChainIds none.chains, omittable "rpc_urls" texts, omittable "router_addresses" texts,
      omittable "native_tokens" texts, defaulted "http_bind" text none.httpBind,
      defaulted "default_deadline_secs" (natural UInt64.size "u64") none.deadlineSecs.toNat]
  return {
    debug, logJson, logLevel, chains, rpcUrls, routerAddresses, nativeTokens, httpBind
    deadlineSecs := UInt64.ofNat deadlineSecs }

open Text

abbrev Converter (α : Type) := (key : String) → Node → Except SourceFault α

def mismatch (found expected key : String) (n : Node) : Except SourceFault α :=
  .error (.mismatch found expected key n.origin)

-- What a value is, where a switch, a number or a text is wanted.
def kindOf : Node → String
  | .leaf _ (.string s) => s!"string {quoted s}"
  | .leaf _ (.int n) => s!"64-bit integer `{n}`"
  | .leaf _ (.bool b) => s!"boolean `{b}`"
  | .leaf _ (.float x) => s!"floating point `{x.positional}`"
  | .leaf _ .null => "unit value"
  | .leaf _ (.array _) | .list .. => "sequence"
  | .leaf _ (.object _) | .table .. => "map"

def switchWord? (word : String) : Option Bool :=
  if ["true", "on", "yes"].contains word then some true
  else if ["false", "off", "no"].contains word then some false
  else none

namespace Converter

def flag : Converter Bool := fun key n =>
  match n with
  | .leaf _ (.bool b) => .ok b
  | .leaf _ (.int i) => .ok (i != 0)
  | .leaf _ (.float x) => .ok (!x.isZero)
  | .leaf _ (.string s) =>
    let word := lowercase s
    if word = "1" then .ok true
    else if word = "0" then .ok false
    else match switchWord? word with
      | some b => .ok b
      | none => mismatch s!"string {quoted word}" "a boolean" key n
  | _ => mismatch (kindOf n) "a boolean" key n

def greatest : Nat := UInt64.size - 1

def natural : Converter UInt64 := fun key n =>
  match n with
  | .leaf _ (.int i) =>
    if 0 ≤ i ∧ i.toNat < UInt64.size then .ok (UInt64.ofNat i.toNat)
    else mismatch (kindOf n) "an unsigned 64 bit or less integer" key n
  | .leaf _ (.bool b) => .ok (if b then 1 else 0)
  | .leaf _ (.float x) => .ok (UInt64.ofNat (x.toNatClamped greatest))
  | .leaf _ (.string s) =>
    match switchWord? (lowercase s) with
    | some b => .ok (if b then 1 else 0)
    | none =>
      match unsigned? UInt64.size (lowercase s).toList with
      | some i => .ok (UInt64.ofNat i)
      | none => mismatch (kindOf n) "an integer" key n
  | _ => mismatch (kindOf n) "an integer" key n

def text : Converter String := fun key n =>
  match n with
  | .leaf _ (.string s) => .ok s
  | .leaf _ (.bool b) => .ok (toString b)
  | .leaf _ (.int i) => .ok (toString i)
  | .leaf _ (.float x) => .ok x.positional
  | _ => mismatch (kindOf n) "a string" key n

def optional (convert : Converter α) : Converter (Option α) := fun key n =>
  match n with
  | .leaf _ .null => .ok none
  | _ => some <$> convert key n

-- What a value is, where a table or the chains are wanted.
def rawKindOf : Node → String
  | .leaf _ (.int n) => s!"integer `{n}`"
  | .leaf _ (.float x) => s!"floating point `{x.positionalWithPoint}`"
  | n => kindOf n

-- A mismatch that is reported without a source.
def rawMismatch (expected key : String) (n : Node) : Except SourceFault α :=
  .error (.mismatch (rawKindOf n) expected key none)

def texts : Converter ChainTexts := fun key n =>
  match n with
  | .table _ members => members.mapM fun (name, value) => do return (name, ← text s!"{key}.{name}" value)
  | _ => rawMismatch "a map" key n

def chainItems (key : String) (position : Nat) : List Node → Except SourceFault (List ChainId)
  | [] => .ok []
  | item :: rest => do
    let chain ← natural s!"{key}[{position}]" item
    return chain :: (← chainItems key (position + 1) rest)

-- A list of identifiers, a text with identifiers, or one identifier beyond the signed numbers.
def chainIds : Converter (List ChainId) := fun key n =>
  let wanted := "a sequence of chain ids or a string with comma-separated ids"
  match n with
  | .list _ items => chainItems key 0 items
  | .leaf _ (.string s) =>
    match Input.chainList s with
    | .ok chains => .ok chains
    | .error (.chainList word) => .error (.chainList word key)
    | .error _ => rawMismatch wanted key n
  | .leaf _ (.int i) =>
    if Nat.pow 2 63 ≤ i ∧ i.toNat < UInt64.size then .ok [UInt64.ofNat i.toNat] else rawMismatch wanted key n
  | _ => rawMismatch wanted key n

end Converter

-- The member of that name converted, or what stands for it when there is none.
def member (root : Node) (key : String) (convert : Converter α) (absent : α) : Except SourceFault α :=
  match root.get? key with
  | some n => convert key n
  | none => .ok absent

open Converter in
def ofNode (root : Node) : Except SourceFault Settings := do
  return {
    debug := ← member root "debug" flag false
    logJson := ← member root "log_json" flag false
    logLevel := ← member root "log_level" (optional text) none
    chains := ← member root "chains" chainIds Chain.defaultIds
    rpcUrls := ← member root "rpc_urls" (optional texts) none
    routerAddresses := ← member root "router_addresses" (optional texts) none
    nativeTokens := ← member root "native_tokens" (optional texts) none
    httpBind := ← member root "http_bind" text ({} : Settings).httpBind
    deadlineSecs := ← member root "default_deadline_secs" natural Chain.defaultDeadlineSecs }

end RouteQuote.Settings
