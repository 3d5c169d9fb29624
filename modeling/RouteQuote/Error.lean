import RouteQuote.Address
import RouteQuote.Amount
import RouteQuote.Text.Printing

namespace RouteQuote

inductive SourceFault where
  | missing (name : String)
  | unsupported (path : String)
  | unreadable (name : String)
  | mismatch (found expected key : String) (origin : Option String)
  | chainList (word key : String)
deriving DecidableEq, Repr

def chainListMessage (word : String) : String := s!"Invalid chain id '{word}' in chain list"

def SourceFault.message : SourceFault → String
  | .missing name => s!"configuration file \"{name}\" not found"
  | .unsupported path => s!"configuration file \"{path}\" is not of a supported file format"
  | .unreadable name => s!"configuration file \"{name}\" is malformed"
  | .mismatch found expected key origin =>
    s!"invalid type: {found}, expected {expected} for key `{key}`" ++
      match origin with
      | some origin => s!" in {origin}"
      | none => ""
  | .chainList word key => s!"Configuration error: {chainListMessage word} for key `{key}`"

inductive ConfigFault where
  | chainList (word : String)
  | noChains
  | port (text : String)
  | noRpcUrl (chain : ChainId)
  | rpcUrl (url : String) (reason : String)
  | bind (target reason : String)
  | source (fault : SourceFault)
  | other (message : String)
deriving DecidableEq, Repr

inductive ValueFault where
  | amount (text : String) (fault : Amount.RadixFault)
  | chainId (text : String)
  | poolIndex (index : Nat)
  | other (message : String)
deriving DecidableEq, Repr

inductive CallFault where
  | countMismatch (results requests : Nat)
  | refused (reason : String)
deriving DecidableEq, Repr

inductive Error where
  | config (fault : ConfigFault)
  | chainCountMismatch (chains providers : Nat)
  | unsupportedChain (chain : ChainId)
  | noRoute (origin dest : ChainId) (tokenOut : Address)
  | contract (chain : ChainId) (call : String) (fault : CallFault)
  | invalidAddress (text : String)
  | validation (field : String) (fault : ValueFault)
  | unknown (message : String)
deriving DecidableEq, Repr

def ConfigFault.message : ConfigFault → String
  | .chainList word => chainListMessage word
  | .noChains => "No chains configured"
  | .port text => s!"Invalid PORT '{text}'"
  | .noRpcUrl chain => s!"No RPC URL for chain {chain}; set rpc_urls.{chain} or rpc_url_{chain}"
  | .rpcUrl url reason => s!"Invalid RPC URL {url}: {reason}"
  | .bind target reason => s!"HTTP server failed to bind {target}: {reason}"
  | .source fault => fault.message
  | .other message => message

def ValueFault.message : ValueFault → String
  | .amount text fault => s!"'{text}' is not an integer amount: {fault.message}"
  | .chainId text => s!"'{text}' is not a chain id"
  | .poolIndex index => s!"pool token index {index} exceeds uint8"
  | .other message => message

def CallFault.message : CallFault → String
  | .countMismatch results requests => s!"{results} results for {requests} requests"
  | .refused reason => reason

namespace Error

def message : Error → String
  | .config fault => s!"Configuration error: {fault.message}"
  | .chainCountMismatch chains providers =>
    s!"Amount of chains and providers does not equal ({chains} chains, {providers} providers)"
  | .unsupportedChain chain => s!"Chain {chain} is not configured"
  | .noRoute origin dest tokenOut =>
    s!"No bridge tokens found for this route ({origin} -> {dest}, token_out {tokenOut.text})"
  | .contract chain call fault => s!"Router call {call} failed on chain {chain}: {fault.message}"
  | .invalidAddress text => s!"Address {text} is invalid"
  | .validation field fault => s!"Validation failed for field {field}: {fault.message}"
  | .unknown message => message

-- The fault lies with what the caller asked for, not with the chain.
def isClientError : Error → Bool
  | .noRoute .. | .unsupportedChain .. | .invalidAddress .. | .validation .. => true
  | _ => false

end Error

end RouteQuote

namespace RouteQuote.Error

open Text in
def detail : Error → String
  | .config fault => s!"Config({quoted fault.message})"
  | .chainCountMismatch chains providers =>
    s!"ChainCountMismatch \x7b chains: {chains}, providers: {providers} \x7d"
  | .unsupportedChain chain => s!"UnsupportedChain({chain})"
  | .noRoute origin dest tokenOut => s!"NoRoute \x7b origin: {origin}, dest: {dest}, token_out: {tokenOut.text} \x7d"
  | .contract chain call fault =>
    s!"Contract \x7b chain_id: {chain}, call: {quoted call}, reason: {quoted fault.message} \x7d"
  | .invalidAddress text => s!"InvalidAddress({quoted text})"
  | .validation field fault => s!"Validation \x7b field: {quoted field}, message: {quoted fault.message} \x7d"
  | .unknown message => s!"Unknown({message})"

end RouteQuote.Error
