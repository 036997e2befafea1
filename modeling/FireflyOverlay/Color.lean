import FireflyOverlay.Scalar

/-!
# Colors and pixels

* `Color`   red, green, blue and opacity of a light source, not weighted by the opacity;
* `Pixel`   the four bytes of a stored pixel.
-/

namespace FireflyOverlay
open Scalar

structure Color (α : Type) where
  r : α
  g : α
  b : α
  a : α
deriving BEq, DecidableEq, Repr

structure Pixel where
  r : UInt8
  g : UInt8
  b : UInt8
  a : UInt8
deriving BEq, DecidableEq, Repr, Inhabited

namespace Color

variable {α : Type}

def toList (c : Color α) : List α := [c.r, c.g, c.b, c.a]

def zipWith (f : α → α → α) (c d : Color α) : Color α :=
  ⟨f c.r d.r, f c.g d.g, f c.b d.b, f c.a d.a⟩

variable [Scalar α]

def white (alpha : α) : Color α := ⟨1, 1, 1, alpha⟩

def opaqueWhite : Color α := white 1

def opaqueBlack : Color α := ⟨0, 0, 0, 1⟩

def transparentBlack : Color α := ⟨0, 0, 0, 0⟩

/-- One color seen through another. -/
def modulate (c d : Color α) : Color α := zipWith (· * ·) c d

/-- The color at the part `t` of the way from `c` to `d`. -/
def mix (c d : Color α) (t : α) : Color α := zipWith (fun x y => x + (y - x) * t) c d

def ofPixel (p : Pixel) : Color α := ⟨ofByte p.r, ofByte p.g, ofByte p.b, ofByte p.a⟩

/-- The pixel of a surface that keeps no opacity. -/
def toPixel (c : Color α) : Pixel := ⟨toByte c.r, toByte c.g, toByte c.b, 255⟩

end Color

namespace Pixel

def black : Pixel := ⟨0, 0, 0, 255⟩

def toList (p : Pixel) : List UInt8 := [p.r, p.g, p.b, p.a]

/-- The three color bytes added up. -/
def light (p : Pixel) : Nat := p.r.toNat + p.g.toNat + p.b.toNat

end Pixel
end FireflyOverlay
