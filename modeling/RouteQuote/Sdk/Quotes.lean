import RouteQuote.Sdk.Basic

namespace RouteQuote

-- A candidate together with what both routers said about it.
structure BestRoute where
  index : Nat
  originQuery : Query
  destQuery : Query
  bridgeToken : Address
deriving DecidableEq, Repr

namespace BestRoute

-- The candidates for which both sides have a query.
def all (candidates : List BridgeToken) (originQueries destQueries : List Query) : List BestRoute :=
  (candidates.zip (originQueries.zip destQueries)).zipIdx.map fun ((candidate, origin, dest), index) =>
    ⟨index, origin, dest, candidate.token⟩

-- Keeps the better of the best so far and the next.
def better (best : Amount × Option BestRoute) (next : BestRoute) : Amount × Option BestRoute :=
  if best.1 < next.destQuery.minAmountOut then (next.destQuery.minAmountOut, some next) else best

def select (candidates : List BridgeToken) (originQueries destQueries : List Query) : Amount × Option BestRoute :=
  (all candidates originQueries destQueries).foldl better (.zero, none)

end BestRoute

end RouteQuote

namespace RouteQuote.Sdk

-- What the destination is asked for each candidate: the amount that the origin sends.
def destRequests (candidates : List BridgeToken) (originQueries : List Query) : List DestRequest :=
  List.zipWith (fun candidate origin => ⟨candidate.symbol, origin.minAmountOut⟩) candidates originQueries

def emptyQuote (routerAddress : Address) (maxAmountOut : Amount) : BridgeQuote :=
  ⟨none, none, routerAddress, maxAmountOut, none, none⟩

open Plan in
def bridgeQuote (sdk : Sdk) (origin dest : ChainId) (tokenIn tokenOut : Address) (amountIn : Amount)
    (deadline : Option Amount) : Plan BridgeQuote := do
  let tokenOut ← sdk.registry.normalize dest tokenOut
  let tokenIn ← sdk.registry.normalize origin tokenIn
  let originRouter ← sdk.router origin
  let destRouter ← sdk.router dest
  let deadline ← resolveDeadline sdk.deadlineSecs deadline
  let connected ← read destRouter (.connectedBridgeTokens tokenOut)
  if connected.isEmpty then .fail (.noRoute origin dest tokenOut)
  else
    let candidates := connected.filter BridgeToken.isRoutable
    let originQueries ← read originRouter (.originAmountOut tokenIn (candidates.map BridgeToken.symbol) amountIn)
    ensureCount origin "getOriginAmountOut" originQueries.length candidates.length
    let requests := destRequests candidates originQueries
    let destQueries ← read destRouter (.destinationAmountOut requests tokenOut)
    ensureCount dest "getDestinationAmountOut" destQueries.length requests.length
    match BestRoute.select candidates originQueries destQueries with
    | (maxAmountOut, none) =>
      emit (.routeless origin dest candidates.length)
      return emptyQuote originRouter.address maxAmountOut
    | (maxAmountOut, some best) =>
      let (feeAmount, feeConfig) ←
        readBoth destRouter (.bridgeFee best.bridgeToken best.originQuery.minAmountOut) (.fee best.bridgeToken)
      let symbol := (candidates[best.index]?.map BridgeToken.symbol).getD ""
      emit (.selected origin dest symbol maxAmountOut feeAmount)
      return {
        feeAmount := some feeAmount
        feeConfig := some feeConfig
        routerAddress := originRouter.address
        maxAmountOut
        originQuery := some (best.originQuery.withDeadline deadline)
        destQuery := some (best.destQuery.withDeadline deadline) }

open Plan in
def swapQuote (sdk : Sdk) (chain : ChainId) (tokenIn tokenOut : Address) (amountIn : Amount)
    (deadline : Option Amount) : Plan SwapQuote := do
  let tokenOut ← sdk.registry.normalize chain tokenOut
  let tokenIn ← sdk.registry.normalize chain tokenIn
  let deadline ← resolveDeadline sdk.deadlineSecs deadline
  let router ← sdk.router chain
  let query ← read router (.amountOut tokenIn tokenOut amountIn)
  return ⟨router.address, query.minAmountOut, query.withDeadline deadline⟩

end RouteQuote.Sdk
