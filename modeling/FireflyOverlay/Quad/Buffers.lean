import FireflyOverlay.Quad
import FireflyOverlay.Scalar.Single

/-!
# The sprite quad as packed buffers

The corners, the places on the sprite and the triangles as bytes: floats of four bytes and
indices of two, low byte first.
-/

namespace FireflyOverlay
namespace Quad

def floatBytes (x : Float32) : List UInt8 :=
  let bits := x.toBits
  [bits.toUInt8, (bits >>> 8).toUInt8, (bits >>> 16).toUInt8, (bits >>> 24).toUInt8]

def vertexBytes : List UInt8 :=
  corners.flatMap fun (x, y, z) => floatBytes x ++ floatBytes y ++ floatBytes z

def spriteBytes : List UInt8 := spritePoints.flatMap fun (u, v) => floatBytes u ++ floatBytes v

def indexBytes : List UInt8 := indices.flatMap fun i => [i.toUInt8, (i / 256).toUInt8]

end Quad
end FireflyOverlay
