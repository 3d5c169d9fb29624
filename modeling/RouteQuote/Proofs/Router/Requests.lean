import RouteQuote.Proofs.Abi.RoundTrip
import RouteQuote.Router.Script

namespace RouteQuote

namespace Abi

-- The same type with byte strings in the place of texts; what is read of it does not depend on how bytes
-- become characters.
def Shape.raw : Shape k → Shape k
  | .address => .address
  | .uint bits => .uint bits
  | .bool => .bool
  | .bytes | .string => .bytes
  | .array item => .array item.raw
  | .tuple members => .tuple members.raw
  | .nil => .nil
  | .cons first rest => .cons first.raw rest.raw

section
variable {f : Function} {arguments : f.inputs.Value}

end

end Abi

namespace Rpc

theorem understood {f : Abi.Function} {data : List UInt8} {v : f.inputs.Value} (decoded : f.decodeCall data = .ok v)
    (put : f.inputs.Value → Read) : (f.decodeCall data).toOption.map put = some (put v) := by
  rw [decoded]
  rfl

end Rpc

end RouteQuote
