import FireflyOverlay.Image

/-!
# A star

A sprite that is drawn by a rule: a soft core and four rays, in one warm color.  Only the opacity
varies.
-/

namespace FireflyOverlay
namespace Star
open Scalar

/-- The length of a side in pixels. -/
def side : Nat := 32

variable {α : Type} [Scalar α]

/-- The distance of a pixel column or row from the middle, as a part of half the side. -/
def offset (i : Nat) : α :=
  let d := ofNat i - ofNat (side - 1) / 2
  greatest d (-d) / ofNat (side / 2)

def opacity [Root α] (x y : Nat) : α :=
  let dx : α := offset x
  let dy : α := offset y
  let core := 1 - Root.sqrt (dx * dx + dy * dy)
  let rays := 1 - Root.sqrt (dx * dy) * 4
  greatest core 0 * greatest rays 0

def pixel (α : Type) [Scalar α] [Root α] (x y : Nat) : Pixel :=
  ⟨255, 240, 160, (min (trunc ((opacity x y : α) * 255)) 255).toNat.toUInt8⟩

def image (α : Type) [Scalar α] [Root α] : Image := .ofFn side side (pixel α)

end Star
end FireflyOverlay
