import RpcRouting.Random.Draw

namespace RpcRouting

-- Lets a fraction of the requests pass.
structure FractionMatcher where
  numerator : UInt32
  denominator : UInt32
deriving Repr, DecidableEq

namespace FractionMatcher

-- Whether a number drawn below the denominator lets a request pass.
def accepts (fraction : FractionMatcher) (draw : Nat) : Bool := draw < fraction.numerator.toNat

def sample (fraction : FractionMatcher) : Draw Bool := do
  return fraction.accepts (← Draw.number fraction.denominator.toNat)

end FractionMatcher

end RpcRouting
