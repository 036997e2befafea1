import FireflyOverlay.Scalar

/-!
# The sprite quad

One square is shared by all fireflies: four corners, each with a place on the plane and a place
on the sprite, and two triangles over them.

* `Quad.corners`        the places on the plane, in surface units;
* `Quad.spritePoints`   the places on the sprite, from 0 to 1;
* `Quad.indices`        the triangles, three corners each.
-/

namespace FireflyOverlay
namespace Quad
open Scalar

/-- The length of an edge in surface units. -/
def side {α : Type} [Scalar α] : α := 32

/-- The corners from the upper left one on, down the left edge first. -/
def corners {α : Type} [Scalar α] : List (α × α × α) :=
  [(0, 0, 0), (0, side, 0), (side, side, 0), (side, 0, 0)]

/-- The sprite covers the square. -/
def spritePoints {α : Type} [Scalar α] : List (α × α) := [(0, 0), (1, 0), (1, 1), (0, 1)]

/-- Two triangles, each a turn against the clock. -/
def indices : List Nat := [0, 1, 2, 0, 2, 3]

end Quad
end FireflyOverlay
