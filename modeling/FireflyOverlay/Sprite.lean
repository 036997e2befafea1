import FireflyOverlay.Assets
import FireflyOverlay.Session

/-!
# The sprite

`loadSprite` makes the texture that all fireflies share.  The texture is made and bound before the
asset is read, so its name can be used also when the asset cannot be read or decoded: then it has
no image, and the fireflies are drawn as plain squares.
-/

namespace FireflyOverlay

variable {α σ : Type} [Display α σ]

def isPowerOfTwo (n : Nat) : Bool := n == 1 <<< n.log2

/-- Hardware without shaders needs images whose sides are powers of two. -/
def hasFixedFunctionSize (m : Image) : Bool := isPowerOfTwo m.width && isPowerOfTwo m.height

def sizeWarning (name : String) (m : Image) : String :=
  "Sprite " ++ Text.quoted name ++ s!" is {m.width}x{m.height}, " ++
    "fixed-function texturing expects power-of-two dimensions"

def uploadSprite (m : Image) : List (DrawCall α) :=
  [.setTextureFilters .linear .linear, .uploadTexture m.width m.height m.toBytes]

def warnOfSize (name : String) (m : Image) : Play α σ Unit :=
  if hasFixedFunctionSize m then pure () else log .warn (sizeWarning name m)

def loadSprite (decoder : ImageDecoder) (assets : AssetStore) (name : String) :
    Play α σ TextureId := do
  let texture ← performDraw .generateTexture
  performDraw (.bindTexture texture)
  match readImage decoder assets name with
  | .error e => log .error ("Unable to load the sprite texture: " ++ e.message)
  | .ok image =>
    warnOfSize name image
    performAll (uploadSprite image)
  return texture

end FireflyOverlay
