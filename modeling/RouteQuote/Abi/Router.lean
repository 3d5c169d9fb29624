import RouteQuote.Abi.Codec
import RouteQuote.Router.Read

namespace RouteQuote.Abi

def amount : Shape .one := .uint 256

def swapQuery : Shape .one := .tuple (.cons .address (.cons .address (.cons amount (.cons amount (.cons .bytes .nil)))))

def bridgeToken : Shape .one := .tuple (.cons .string (.cons .address .nil))

def destRequest : Shape .one := .tuple (.cons .string (.cons amount .nil))

def poolToken : Shape .one := .tuple (.cons .bool (.cons .address .nil))

def pool : Shape .one := .tuple (.cons .address (.cons .address (.cons (.array poolToken) .nil)))

def ofQuery (q : Query) : swapQuery.Value := (q.swapAdapter, q.tokenOut, q.minAmountOut, q.deadline, q.rawParams, ())

def toQuery (v : swapQuery.Value) : Query := ⟨v.1, v.2.1, v.2.2.1, v.2.2.2.1, v.2.2.2.2.1⟩

def ofBridgeToken (t : BridgeToken) : bridgeToken.Value := (t.symbol, t.token, ())

def toBridgeToken (v : bridgeToken.Value) : BridgeToken := ⟨v.1, v.2.1⟩

def ofDestRequest (r : DestRequest) : destRequest.Value := (r.symbol, r.amountIn, ())

def ofPoolToken (t : PoolToken) : poolToken.Value := (t.isWeth, t.token, ())

def toPoolToken (v : poolToken.Value) : PoolToken := ⟨v.1, v.2.1⟩

def ofPool (p : PoolSummary) : pool.Value := (p.poolAddress, p.lpToken, p.tokens.map ofPoolToken, ())

def toPool (v : pool.Value) : PoolSummary := ⟨v.1, v.2.2.1.map toPoolToken, v.2.1⟩

def getConnectedBridgeTokens : Function :=
  ⟨"getConnectedBridgeTokens", .cons .address .nil, .cons (.array bridgeToken) .nil⟩

def getOriginAmountOut : Function :=
  ⟨"getOriginAmountOut", .cons .address (.cons (.array .string) (.cons amount .nil)), .cons (.array swapQuery) .nil⟩

def getDestinationAmountOut : Function :=
  ⟨"getDestinationAmountOut", .cons (.array destRequest) (.cons .address .nil), .cons (.array swapQuery) .nil⟩

def getAmountOut : Function :=
  ⟨"getAmountOut", .cons .address (.cons .address (.cons amount .nil)), .cons swapQuery .nil⟩

def calculateBridgeFee : Function := ⟨"calculateBridgeFee", .cons .address (.cons amount .nil), .cons amount .nil⟩

def fee : Function := ⟨"fee", .cons .address .nil, .cons amount (.cons amount (.cons amount .nil))⟩

def synapseBridge : Function := ⟨"synapseBridge", .nil, .cons .address .nil⟩

def chainGasAmount : Function := ⟨"chainGasAmount", .nil, .cons amount .nil⟩

def poolTokens : Function := ⟨"poolTokens", .cons .address .nil, .cons (.array poolToken) .nil⟩

def poolInfo : Function := ⟨"poolInfo", .cons .address .nil, .cons amount (.cons .address .nil)⟩

def allPools : Function := ⟨"allPools", .nil, .cons (.array pool) .nil⟩

def calculateAddLiquidity : Function :=
  ⟨"calculateAddLiquidity", .cons .address (.cons (.array amount) .nil), .cons amount .nil⟩

def calculateRemoveLiquidity : Function :=
  ⟨"calculateRemoveLiquidity", .cons .address (.cons amount .nil), .cons (.array amount) .nil⟩

def calculateWithdrawOneToken : Function :=
  ⟨"calculateWithdrawOneToken", .cons .address (.cons amount (.cons (.uint 8) .nil)), .cons amount .nil⟩

def bridge : Function :=
  ⟨"bridge", .cons .address (.cons amount (.cons .address (.cons amount (.cons swapQuery (.cons swapQuery .nil))))), .nil⟩

def swap : Function :=
  ⟨"swap", .cons .address (.cons .address (.cons amount (.cons swapQuery .nil))), .cons amount .nil⟩

end RouteQuote.Abi
