import RouteQuote.Address
import RouteQuote.Amount

namespace RouteQuote

structure PoolToken where
  isWeth : Bool := false
  token : Address
deriving DecidableEq, Repr

-- The number of tokens of a pool, and the token that stands for a share in it.
structure PoolInfo where
  tokens : Amount
  lpToken : Address
deriving DecidableEq, Repr

structure PoolSummary where
  poolAddress : Address
  tokens : List PoolToken
  lpToken : Address
deriving DecidableEq, Repr

structure AddLiquidityQuote where
  amount : Amount
  routerAddress : Address
deriving DecidableEq, Repr

-- An amount, and the position in the pool of the token it is of.
structure IndexedAmount where
  value : Amount
  index : Nat
deriving DecidableEq, Repr

-- The amounts of a withdrawal, one for each token of the pool, in the order of the addresses.
structure RemoveLiquidityQuote where
  amounts : List (Address × IndexedAmount)
  routerAddress : Address
deriving DecidableEq, Repr

structure RemoveLiquidityOneQuote where
  amount : IndexedAmount
  routerAddress : Address
deriving DecidableEq, Repr

-- How a router is to carry out a swap, or one leg of a bridging.
structure Query where
  swapAdapter : Address := .zero
  tokenOut : Address := .zero
  minAmountOut : Amount := .zero
  deadline : Amount := .zero
  rawParams : List UInt8 := []
deriving DecidableEq, Repr

def Query.withDeadline (q : Query) (deadline : Amount) : Query := { q with deadline }

structure FeeConfig where
  bridgeFee : Amount := .zero
  minFee : Amount := .zero
  maxFee : Amount := .zero
deriving DecidableEq, Repr

-- A token that connects a destination token with a bridge, and the symbol the bridge knows it by.
structure BridgeToken where
  symbol : String
  token : Address
deriving DecidableEq, Repr

def BridgeToken.isRoutable (t : BridgeToken) : Bool := t.symbol != "" && t.token != .zero

-- What arrives at the destination: so much of the token of that symbol.
structure DestRequest where
  symbol : String
  amountIn : Amount
deriving DecidableEq, Repr

-- The best way to bridge; without a route only the origin router and the amount zero are given.
structure BridgeQuote where
  feeAmount : Option Amount
  feeConfig : Option FeeConfig
  routerAddress : Address
  maxAmountOut : Amount
  originQuery : Option Query
  destQuery : Option Query
deriving DecidableEq, Repr

def BridgeQuote.hasRoute (q : BridgeQuote) : Bool := q.originQuery.isSome && q.destQuery.isSome

structure SwapQuote where
  routerAddress : Address
  maxAmountOut : Amount
  query : Query
deriving DecidableEq, Repr

structure UnsignedTransaction where
  target : Address
  data : List UInt8
deriving DecidableEq, Repr

-- The router contract of a chain, and the connection over which it is asked.
structure Router where
  link : Nat
  chainId : ChainId
  address : Address
deriving DecidableEq, Repr

inductive Read where
  | connectedBridgeTokens (tokenOut : Address)
  | originAmountOut (tokenIn : Address) (symbols : List String) (amountIn : Amount)
  | destinationAmountOut (requests : List DestRequest) (tokenOut : Address)
  | amountOut (tokenIn tokenOut : Address) (amountIn : Amount)
  | bridgeFee (token : Address) (amount : Amount)
  | fee (token : Address)
  | bridgeAddress
  | gasAmount (bridge : Address)
  | poolTokens (pool : Address)
  | poolInfo (pool : Address)
  | allPools
  | addLiquidity (pool : Address) (amounts : List Amount)
  | removeLiquidity (pool : Address) (amount : Amount)
  | withdrawOne (pool : Address) (amount : Amount) (index : UInt8)
deriving DecidableEq, Repr

namespace Read

@[reducible] def Answer : Read → Type
  | .connectedBridgeTokens _ => List BridgeToken
  | .originAmountOut .. | .destinationAmountOut .. => List Query
  | .amountOut .. => Query
  | .bridgeFee .. | .gasAmount _ | .addLiquidity .. | .withdrawOne .. => Amount
  | .fee _ => FeeConfig
  | .bridgeAddress => Address
  | .poolTokens _ => List PoolToken
  | .poolInfo _ => PoolInfo
  | .allPools => List PoolSummary
  | .removeLiquidity .. => List Amount

def call : Read → String
  | .connectedBridgeTokens _ => "getConnectedBridgeTokens"
  | .originAmountOut .. => "getOriginAmountOut"
  | .destinationAmountOut .. => "getDestinationAmountOut"
  | .amountOut .. => "getAmountOut"
  | .bridgeFee .. => "calculateBridgeFee"
  | .fee _ => "fee"
  | .bridgeAddress => "synapseBridge"
  | .gasAmount _ => "chainGasAmount"
  | .poolTokens _ => "poolTokens"
  | .poolInfo _ => "poolInfo"
  | .allPools => "allPools"
  | .addLiquidity .. => "calculateAddLiquidity"
  | .removeLiquidity .. => "calculateRemoveLiquidity"
  | .withdrawOne .. => "calculateWithdrawOneToken"

end Read

end RouteQuote
