/-!
# Dispatch statistics

What a gateway counts over its life.
-/

namespace ApiGateway

structure DispatchStats where
  dispatched : Nat := 0
  notFound : Nat := 0
  deployed : Nat := 0
  deployFailures : Nat := 0
  undeployed : Nat := 0
  stopFailures : Nat := 0
deriving DecidableEq, Repr, Inhabited

end ApiGateway
