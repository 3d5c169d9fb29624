import RouteQuote.Abi.Router
import RouteQuote.Sdk.Quotes

namespace RouteQuote

-- A call of the router's bridge function. The queries go in as they are.
def Router.bridgeTransaction (router : Router) (recipient : Address) (dest : ChainId) (token : Address)
    (amount : Amount) (originQuery destQuery : Query) : UnsignedTransaction :=
  ⟨router.address, Abi.bridge.calldata
    (recipient, Amount.ofWord dest, token, amount, Abi.ofQuery originQuery, Abi.ofQuery destQuery, ())⟩

def Router.swapTransaction (router : Router) (recipient token : Address) (amount : Amount) (query : Query) :
    UnsignedTransaction :=
  ⟨router.address, Abi.swap.calldata (recipient, token, amount, Abi.ofQuery query, ())⟩

namespace Sdk

def bridge (sdk : Sdk) (recipient : Address) (origin dest : ChainId) (token : Address) (amount : Amount)
    (originQuery destQuery : Query) : Except Error UnsignedTransaction := do
  let token ← sdk.registry.normalize origin token
  let router ← sdk.router origin
  return router.bridgeTransaction recipient dest token amount originQuery destQuery

def swap (sdk : Sdk) (chain : ChainId) (recipient token : Address) (amount : Amount) (query : Query) :
    Except Error UnsignedTransaction := do
  let token ← sdk.registry.normalize chain token
  let router ← sdk.router chain
  return router.swapTransaction recipient token amount query

open Plan in
def bridgeGas (sdk : Sdk) (chain : ChainId) : Plan Amount := do
  let router ← sdk.router chain
  let bridge ← read router .bridgeAddress
  read router (.gasAmount bridge)

end Sdk

-- The amount under a token; of several the last, and zero without any.
def amountOf (amounts : List (Address × Amount)) (token : Address) : Amount :=
  ((amounts.reverse.find? (·.1 == token)).map Prod.snd).getD .zero

def alignAmounts (pool : List PoolToken) (amounts : List (Address × Amount)) : List Amount :=
  pool.map fun t => amountOf amounts t.token

-- The last position of a token in the pool, or the first position of the pool when it is not there.
def poolTokenIndex (pool : List PoolToken) (token : Address) : Nat :=
  match pool.reverse.findIdx? (·.token == token) with
  | some fromEnd => pool.length - 1 - fromEnd
  | none => 0

-- The amounts by token, in the order of the addresses; of a token that occurs twice the last.
def amountsByToken (pool : List PoolToken) (amounts : List Amount) : List (Address × IndexedAmount) :=
  Keyed.ofList (fun a : Address => a.value.val)
    ((pool.zip amounts).zipIdx.map fun ((t, value), index) => (t.token, ⟨value, index⟩))

namespace Sdk

open Plan

def poolTokens (sdk : Sdk) (chain : ChainId) (pool : Address) : Plan (List PoolToken) := do
  read (← sdk.router chain) (.poolTokens pool)

def poolInfo (sdk : Sdk) (chain : ChainId) (pool : Address) : Plan PoolInfo := do
  read (← sdk.router chain) (.poolInfo pool)

def allPools (sdk : Sdk) (chain : ChainId) : Plan (List PoolSummary) := do
  read (← sdk.router chain) .allPools

-- The share tokens minted for a deposit. A deposit of nothing mints nothing, and nobody is asked.
def addLiquidity (sdk : Sdk) (chain : ChainId) (pool : Address) (amounts : List (Address × Amount)) :
    Plan AddLiquidityQuote := do
  let router ← sdk.router chain
  let tokens ← read router (.poolTokens pool)
  let aligned := alignAmounts tokens amounts
  if aligned.all (· == .zero) then return ⟨.zero, router.address⟩
  else
    let amount ← read router (.addLiquidity pool aligned)
    return ⟨amount, router.address⟩

def removeLiquidity (sdk : Sdk) (chain : ChainId) (pool : Address) (amount : Amount) :
    Plan RemoveLiquidityQuote := do
  let router ← sdk.router chain
  let amounts ← read router (.removeLiquidity pool amount)
  let tokens ← read router (.poolTokens pool)
  ensureCount chain "calculateRemoveLiquidity" amounts.length tokens.length
  return ⟨amountsByToken tokens amounts, router.address⟩

-- The amount of one token given out for share tokens. The contract knows positions below 256.
def removeLiquidityOne (sdk : Sdk) (chain : ChainId) (pool : Address) (amount : Amount) (token : Address) :
    Plan RemoveLiquidityOneQuote := do
  let router ← sdk.router chain
  let tokens ← read router (.poolTokens pool)
  let index := poolTokenIndex tokens token
  if index < 256 then
    let value ← read router (.withdrawOne pool amount (UInt8.ofNat index))
    return ⟨⟨value, index⟩, router.address⟩
  else .fail (.validation "token" (.poolIndex index))

end Sdk

-- What an SDK can be asked to do.
inductive Operation where
  | bridgeQuote (origin dest : ChainId) (tokenIn tokenOut : Address) (amountIn : Amount) (deadline : Option Amount)
  | swapQuote (chain : ChainId) (tokenIn tokenOut : Address) (amountIn : Amount) (deadline : Option Amount)
  | bridge (recipient : Address) (origin dest : ChainId) (token : Address) (amount : Amount) (originQuery destQuery : Query)
  | swap (chain : ChainId) (recipient token : Address) (amount : Amount) (query : Query)
  | bridgeGas (chain : ChainId)
  | poolTokens (chain : ChainId) (pool : Address)
  | poolInfo (chain : ChainId) (pool : Address)
  | allPools (chain : ChainId)
  | addLiquidity (chain : ChainId) (pool : Address) (amounts : List (Address × Amount))
  | removeLiquidity (chain : ChainId) (pool : Address) (amount : Amount)
  | removeLiquidityOne (chain : ChainId) (pool : Address) (amount : Amount) (token : Address)

@[reducible] def Operation.Result : Operation → Type
  | .bridgeQuote .. => BridgeQuote
  | .swapQuote .. => SwapQuote
  | .bridge .. | .swap .. => UnsignedTransaction
  | .bridgeGas _ => Amount
  | .poolTokens .. => List PoolToken
  | .poolInfo .. => PoolInfo
  | .allPools _ => List PoolSummary
  | .addLiquidity .. => AddLiquidityQuote
  | .removeLiquidity .. => RemoveLiquidityQuote
  | .removeLiquidityOne .. => RemoveLiquidityOneQuote

def Sdk.perform (sdk : Sdk) : (operation : Operation) → Plan operation.Result
  | .bridgeQuote origin dest tokenIn tokenOut amountIn deadline =>
    sdk.bridgeQuote origin dest tokenIn tokenOut amountIn deadline
  | .swapQuote chain tokenIn tokenOut amountIn deadline => sdk.swapQuote chain tokenIn tokenOut amountIn deadline
  | .bridge recipient origin dest token amount originQuery destQuery =>
    .ofExcept (sdk.bridge recipient origin dest token amount originQuery destQuery)
  | .swap chain recipient token amount query => .ofExcept (sdk.swap chain recipient token amount query)
  | .bridgeGas chain => sdk.bridgeGas chain
  | .poolTokens chain pool => sdk.poolTokens chain pool
  | .poolInfo chain pool => sdk.poolInfo chain pool
  | .allPools chain => sdk.allPools chain
  | .addLiquidity chain pool amounts => sdk.addLiquidity chain pool amounts
  | .removeLiquidity chain pool amount => sdk.removeLiquidity chain pool amount
  | .removeLiquidityOne chain pool amount token => sdk.removeLiquidityOne chain pool amount token

end RouteQuote
