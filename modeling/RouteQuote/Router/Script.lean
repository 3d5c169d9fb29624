import RouteQuote.Router.Plan
import RouteQuote.Router.Rpc

namespace RouteQuote.Router

structure Fixed where
  bridgeTokens : List BridgeToken := []
  originQueries : List Query := []
  destQueries : List Query := []
  swapQuery : Query := {}
  bridgeFee : Amount := .zero
  feeConfig : FeeConfig := {}
  bridgeAddress : Address := .zero
  gasAmount : Amount := .zero
  poolTokens : List PoolToken := []
  poolInfo : Option PoolInfo := none
  pools : List PoolSummary := []
  addLiquidityOut : Amount := .zero
  removeLiquidityOut : List Amount := []
  withdrawOneOut : Amount := .zero
  refusals : List (String × String) := []

namespace Fixed

-- The number of the pool's tokens, and no share token, unless something else was said.
def info (r : Fixed) : PoolInfo := r.poolInfo.getD ⟨.ofNat r.poolTokens.length, .zero⟩

def value (r : Fixed) : (question : Read) → question.Answer
  | .connectedBridgeTokens _ => r.bridgeTokens
  | .originAmountOut .. => r.originQueries
  | .destinationAmountOut .. => r.destQueries
  | .amountOut .. => r.swapQuery
  | .bridgeFee .. => r.bridgeFee
  | .fee _ => r.feeConfig
  | .bridgeAddress => r.bridgeAddress
  | .gasAmount _ => r.gasAmount
  | .poolTokens _ => r.poolTokens
  | .poolInfo _ => r.info
  | .allPools => r.pools
  | .addLiquidity .. => r.addLiquidityOut
  | .removeLiquidity .. => r.removeLiquidityOut
  | .withdrawOne .. => r.withdrawOneOut

def answer (r : Fixed) (question : Read) : Except String question.Answer :=
  match r.refusals.find? (·.1 == question.call) with
  | some (_, reason) => .error reason
  | none => .ok (r.value question)

end Fixed

end RouteQuote.Router

namespace RouteQuote.Rpc

inductive Replies where
  | always (reply : Reply)
  | queue (replies : List Reply)

structure Script where
  replies : List (String × Replies) := []

namespace Script

def exhausted (function : String) : Reply := .failure s!"no scripted answer for {function}"

def set (script : Script) (function : String) (replies : Replies) : Script :=
  ⟨script.replies.filter (·.1 != function) ++ [(function, replies)]⟩

def next (script : Script) (function : String) : Reply × Script :=
  match script.replies.find? (·.1 == function) with
  | some (_, .always reply) => (reply, script)
  | some (_, .queue (reply :: rest)) => (reply, script.set function (.queue rest))
  | _ => (exhausted function, script)

end Script

-- A node that says the same to everything, at once.
def Transport.repeating (reply : Reply) : Transport Unit where
  send _ _ s := (reply, s)
  timing _ _ _ _ := .atOnce
  clock s := (0, s)

end RouteQuote.Rpc

namespace RouteQuote

inductive Link where
  | fixed (router : Router.Fixed)
  | script (script : Rpc.Script)

namespace Link

-- Asks the link of a router; a link that is not there has no prepared reply.
def answer (router : Router) (question : Read) (links : List Link) : Except String question.Answer × List Link :=
  match links[router.link]? with
  | some (.fixed kept) => (kept.answer question, links)
  | some (.script before) =>
    let (reply, after) := before.next question.call
    (Rpc.answer question reply, links.set router.link (.script after))
  | none => (Rpc.answer question (Rpc.Script.exhausted question.call), links)

-- Links answer without delay, and while they do the time stands still.
def backend (now : UInt64) : Backend (List Link) where
  answer := answer
  timing _ _ _ _ := .atOnce
  clock links := (now, links)

end Link

end RouteQuote
