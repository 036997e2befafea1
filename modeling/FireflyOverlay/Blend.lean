import FireflyOverlay.Display.Call

/-!
# Blending

How a drawn color and the pixel below it make a new pixel.  The surface keeps no opacity, so a
stored pixel is opaque.
-/

namespace FireflyOverlay
open Scalar

variable {α : Type} [Scalar α]

def BlendFactor.weigh (f : BlendFactor) (src : Color α) : α :=
  match f with
  | .zero => 0
  | .one => 1
  | .srcAlpha => src.a
  | .oneMinusSrcAlpha => 1 - src.a

/-- Source and destination, each times its factor, added up. -/
def BlendFunc.combine (f : BlendFunc) (src : Color α) (dst : Pixel) : Color α :=
  src.zipWith (fun s d => s * f.src.weigh src + d * f.dst.weigh src) (.ofPixel dst)

def blend (f : Option BlendFunc) (src : Color α) (dst : Pixel) : Pixel :=
  match f with
  | none => src.toPixel
  | some f => (f.combine src dst).toPixel

end FireflyOverlay
