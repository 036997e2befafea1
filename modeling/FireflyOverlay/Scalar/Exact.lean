import FireflyOverlay.Scalar

/-!
# Exact scalars

The rationals as scalars: every operation is exact and every number is finite.
-/

namespace FireflyOverlay
namespace Exact

def trunc (x : Rat) : Int := if x < 0 then -(-x).floor else x.floor

def rem (x y : Rat) : Rat := x - y * trunc (x / y)

instance : Scalar Rat where
  decLt a b := inferInstanceAs (Decidable (a < b))
  decLe a b := inferInstanceAs (Decidable (a ≤ b))
  ofNat n := n
  isFinite _ := true
  floor x := x.floor
  ceil x := x.ceil
  trunc := trunc
  rem := rem

end Exact
end FireflyOverlay
