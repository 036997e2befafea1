/-!
# The arithmetic that motion and drawing are written in

Positions, colors and matrices are written over one type of numbers, so that the same
definitions run on single-precision floats and can be read as exact arithmetic.

* `Scalar`   field operations, order, and the roundings between numbers and integers;
* `Trig`     sine and cosine of an angle in degrees;
* `Root`     square roots.

A `Scalar` promises no laws: `Scalar.Single` is a float type, where addition is not even
associative, and `Scalar.Exact` is the field of the rationals.
-/

namespace FireflyOverlay

class Scalar (α : Type) extends Add α, Sub α, Mul α, Div α, Neg α, LT α, LE α where
  decLt (a b : α) : Decidable (a < b)
  decLe (a b : α) : Decidable (a ≤ b)
  /-- the number nearest to `n` -/
  ofNat (n : Nat) : α
  isFinite (a : α) : Bool
  /-- the greatest whole number that is not above `a` -/
  floor (a : α) : α
  /-- the least whole number that is not below `a` -/
  ceil (a : α) : α
  /-- the integer next to `a` towards zero -/
  trunc (a : α) : Int
  /-- the remainder of a division whose quotient is cut towards zero -/
  rem (a b : α) : α

class Trig (α : Type) where
  cosDegrees : α → α
  sinDegrees : α → α

class Root (α : Type) where
  sqrt : α → α

namespace Scalar

variable {α : Type} [Scalar α]

instance (a b : α) : Decidable (a < b) := decLt a b

instance (a b : α) : Decidable (a ≤ b) := decLe a b

scoped instance instOfNat (n : Nat) : OfNat α n := ⟨ofNat n⟩

def ofInt (n : Int) : α := if n < 0 then -ofNat n.natAbs else ofNat n.natAbs

/-- The lesser of two numbers; the second where they do not compare. -/
def least (a b : α) : α := if a ≤ b then a else b

/-- The greater of two numbers; the second where they do not compare. -/
def greatest (a b : α) : α := if b ≤ a then a else b

/-- Cuts a number to the range from 0 to 1; one that does not compare stays. -/
def clampUnit (a : α) : α := if a < 0 then 0 else if 1 < a then 1 else a

/-- The nearest integer of a number that is not negative; a half goes up. -/
def round (a : α) : Int :=
  let whole := trunc a
  if 1 / 2 ≤ a - ofInt whole then whole + 1 else whole

/-- The byte of a color channel: the channel is cut to the range from 0 to 1, which the bytes
divide evenly. -/
def toByte (a : α) : UInt8 := (round (clampUnit a * 255)).toNat.toUInt8

/-- The channel that a byte stands for. -/
def ofByte (b : UInt8) : α := ofNat b.toNat / 255

/-- The index of a pixel row or column: the whole part, cut to 32 bits. -/
def toIndex (a : α) : Nat := min (trunc a).toNat 0xffffffff

end Scalar
end FireflyOverlay
