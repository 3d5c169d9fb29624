import RouteQuote.Proofs.Chain.Registry
import RouteQuote.Proofs.FirstFault
import RouteQuote.Proofs.Sdk.NativeToken

namespace RouteQuote

namespace Adjustment

end Adjustment

namespace Sdk

variable {sdk before middle after : Sdk} {chain : ChainId} {token : Address} {a b : Adjustment} {steps : List Adjustment}
  {chains : List ChainId} {routers : List Router} {e : Error}

end Sdk

end RouteQuote
