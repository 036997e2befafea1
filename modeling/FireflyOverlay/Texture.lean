import FireflyOverlay.Image
import FireflyOverlay.Display.Call

/-!
# Textures

* `Texture`          an image, if there is one, and a filter for shrinking and for enlarging;
* `Image.texel`      the color at a column and a row, both cut to the image;
* `Image.sample`     the color at a place of the unit square: of the texel that holds the place,
                     or mixed from the four texels whose centers lie around it.
-/

namespace FireflyOverlay
open Scalar

structure Texture where
  minFilter : TextureFilter
  magFilter : TextureFilter
  image : Option Image
deriving DecidableEq

/-- A new texture has no image. -/
def Texture.empty : Texture := ⟨.linear, .linear, none⟩

namespace Image

/-- The index next to `i` among the `n` from 0 on. -/
def nearestIndex (i : Int) (n : Nat) : Nat := (max 0 (min i (n - 1))).toNat

variable {α : Type} [Scalar α]

def texel (m : Image) (x y : Int) : Color α :=
  .ofPixel ((m.get? (nearestIndex x m.width) (nearestIndex y m.height)).getD default)

/-- The texel that holds a place. -/
def sampleNearest (m : Image) (x y : α) : Color α := m.texel (trunc (floor x)) (trunc (floor y))

/-- Four texels mixed by the distance of a place from the center of the upper left one. -/
def sampleLinear (m : Image) (x y : α) : Color α :=
  let x := x - 1 / 2
  let y := y - 1 / 2
  let column := trunc (floor x)
  let row := trunc (floor y)
  let right := x - floor x
  let down := y - floor y
  let upper := (m.texel column row).mix (m.texel (column + 1) row) right
  let lower := (m.texel column (row + 1)).mix (m.texel (column + 1) (row + 1)) right
  upper.mix lower down

def sample (m : Image) (filter : TextureFilter) (u v : α) : Color α :=
  let x := u * ofNat m.width
  let y := v * ofNat m.height
  match filter with
  | .nearest => m.sampleNearest x y
  | .linear => m.sampleLinear x y

end Image
end FireflyOverlay
