import RouteQuote.Proofs.Http.Quotes
import RouteQuote.Proofs.Sdk.Adjustment

namespace RouteQuote

namespace Http

end Http

end RouteQuote
