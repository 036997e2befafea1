import FireflyOverlay.Scalar

/-!
# Triangles on a grid of pixels

* `Vertex`              a corner on the screen, with a place on the sprite;
* `Vertex.edge`         twice the signed area of a triangle over an edge;
* `Triangle.oriented?`  the triangle turned so that its area is positive, or none if it has no
                        finite area;
* `Triangle.covers`     the pixels whose center lies inside.  A center on an edge belongs to the
                        triangle that walks the edge downward, or to the right: after turning,
                        two neighbours walk their common edge in opposite directions, so exactly
                        one of them owns it;
* `Triangle.pixels`     the covered pixels of a clip, row by row.
-/

namespace FireflyOverlay
open Scalar

structure Vertex (α : Type) where
  x : α
  y : α
  u : α
  v : α
deriving DecidableEq, Repr

structure Triangle (α : Type) where
  a : Vertex α
  b : Vertex α
  c : Vertex α
deriving DecidableEq, Repr

variable {α : Type} [Scalar α]

namespace Vertex

def edge (a b : Vertex α) (x y : α) : α := (b.x - a.x) * (y - a.y) - (b.y - a.y) * (x - a.x)

/-- An edge from `a` to `b` goes downward, or level to the right. -/
def owns (a b : Vertex α) : Bool :=
  let right := b.x - a.x
  let down := b.y - a.y
  decide (0 < down) || (decide (0 ≤ down) && decide (down ≤ 0) && decide (0 < right))

/-- A place is on the inner side of an edge, or on the edge if it is owned. -/
def admits (a b : Vertex α) (x y : α) : Bool :=
  let side := a.edge b x y
  decide (0 < side) || (decide (0 ≤ side) && decide (side ≤ 0) && a.owns b)

end Vertex

namespace Triangle

/-- Twice the signed area. -/
def area (t : Triangle α) : α := t.a.edge t.b t.c.x t.c.y

def flip (t : Triangle α) : Triangle α := ⟨t.a, t.c, t.b⟩

/-- The triangle with positive area, and that area. -/
def oriented? (t : Triangle α) : Option (Triangle α × α) :=
  let area := t.area
  if isFinite area then
    if 0 < area then some (t, area)
    else if area < 0 then some (t.flip, -area)
    else none
  else none

/-- The center of a pixel column or row. -/
def center (i : Nat) : α := ofNat i + 1 / 2

/-- The center of a pixel is inside; for a triangle with positive area. -/
def covers (t : Triangle α) (x y : Nat) : Bool :=
  t.b.admits t.c (center x) (center y) && t.c.admits t.a (center x) (center y) &&
    t.a.admits t.b (center x) (center y)

/-! ## the clip -/

/-- The columns or rows that a triangle reaches, up to a limit.  `p`, `q`, `r` are the
coordinates of its corners. -/
def span (p q r : α) (limit : Nat) : List Nat :=
  let first := greatest (floor (least (least p q) r)) 0
  let last := least (ceil (greatest (greatest p q) r)) (ofNat limit)
  if first < last then
    List.range' (toIndex first) (toIndex last - toIndex first)
  else []

/-- The pixels of a clip of the given size that the triangle may reach. -/
def box (t : Triangle α) (width height : Nat) : List (Nat × Nat) :=
  let columns := span t.a.x t.b.x t.c.x width
  (span t.a.y t.b.y t.c.y height).flatMap fun y => columns.map fun x => (x, y)

/-- The pixels of a clip that an oriented triangle covers. -/
def pixels (t : Triangle α) (width height : Nat) : List (Nat × Nat) :=
  (t.box width height).filter fun p => t.covers p.1 p.2

/-! ## places on the sprite -/

/-- The value at a pixel of a quantity that is given at the corners. -/
def interpolate (t : Triangle α) (area : α) (p q r : α) (x y : Nat) : α :=
  (t.b.edge t.c (center x) (center y) * p + t.c.edge t.a (center x) (center y) * q +
    t.a.edge t.b (center x) (center y) * r) / area

/-- How much a quantity that is given at the corners grows from one pixel to the right. -/
def slope (t : Triangle α) (area : α) (p q r : α) : α :=
  (p * (t.b.y - t.c.y) + q * (t.c.y - t.a.y) + r * (t.a.y - t.b.y)) / area

/-- How many texels of a sprite of the given size a step of one pixel to the right covers. -/
def texelsPerPixel [Root α] (t : Triangle α) (area : α) (width height : Nat) : α :=
  let du := t.slope area t.a.u t.b.u t.c.u * ofNat width
  let dv := t.slope area t.a.v t.b.v t.c.v * ofNat height
  Root.sqrt (du * du + dv * dv)

end Triangle
end FireflyOverlay
