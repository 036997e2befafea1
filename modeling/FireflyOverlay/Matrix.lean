import FireflyOverlay.Scalar

/-!
# Homogeneous transforms

* `Vec4`, `Mat4`   four entries, four rows;
* `Mat4.mul`, `Mat4.apply`   every entry is a dot product, added up from the left and with no
  shortcut for zeros;
* `Mat4.ortho`     the projection of a box onto the cube from -1 to 1;
* `Mat4.place`     scaling about the origin, then a move within the plane.
-/

namespace FireflyOverlay
open Scalar

structure Vec4 (α : Type) where
  x : α
  y : α
  z : α
  w : α
deriving BEq, DecidableEq, Repr

structure Mat4 (α : Type) where
  row0 : Vec4 α
  row1 : Vec4 α
  row2 : Vec4 α
  row3 : Vec4 α
deriving BEq, DecidableEq, Repr

variable {α : Type}

def Vec4.toList (v : Vec4 α) : List α := [v.x, v.y, v.z, v.w]

/-! ## entries -/

def Mat4.rows (m : Mat4 α) : List (Vec4 α) := [m.row0, m.row1, m.row2, m.row3]

/-- The entries, row after row. -/
def Mat4.entries (m : Mat4 α) : List α := m.rows.flatMap Vec4.toList

def Mat4.transpose (m : Mat4 α) : Mat4 α :=
  ⟨⟨m.row0.x, m.row1.x, m.row2.x, m.row3.x⟩,
   ⟨m.row0.y, m.row1.y, m.row2.y, m.row3.y⟩,
   ⟨m.row0.z, m.row1.z, m.row2.z, m.row3.z⟩,
   ⟨m.row0.w, m.row1.w, m.row2.w, m.row3.w⟩⟩

/-! ## products -/

variable [Scalar α]

def Vec4.dot (a b : Vec4 α) : α := a.x * b.x + a.y * b.y + a.z * b.z + a.w * b.w

def Mat4.apply (m : Mat4 α) (v : Vec4 α) : Vec4 α :=
  ⟨m.row0.dot v, m.row1.dot v, m.row2.dot v, m.row3.dot v⟩

def Mat4.mul (a b : Mat4 α) : Mat4 α :=
  let columns := b.transpose
  ⟨columns.apply a.row0, columns.apply a.row1, columns.apply a.row2, columns.apply a.row3⟩

instance : Mul (Mat4 α) := ⟨Mat4.mul⟩

/-- The image of a point of space. -/
def Mat4.applyPoint (m : Mat4 α) (x y z : α) : Vec4 α := m.apply ⟨x, y, z, 1⟩

/-! ## the transforms of a scene -/

def Mat4.identity : Mat4 α := ⟨⟨1, 0, 0, 0⟩, ⟨0, 1, 0, 0⟩, ⟨0, 0, 1, 0⟩, ⟨0, 0, 0, 1⟩⟩

/-- The projection of a box: `left` and `bottom` go to -1, `right` and `top` to 1.  With `bottom` below
`top` on the screen, rows grow downward.  The third axis is turned around: `near` and `far` are
distances against it. -/
def Mat4.ortho (left right bottom top near far : α) : Mat4 α :=
  ⟨⟨2 / (right - left), 0, 0, (right + left) / (left - right)⟩,
   ⟨0, 2 / (top - bottom), 0, (top + bottom) / (bottom - top)⟩,
   ⟨0, 0, -2 / (far - near), (far + near) / (near - far)⟩,
   ⟨0, 0, 0, 1⟩⟩

def Mat4.translation (x y : α) : Mat4 α :=
  ⟨⟨1, 0, 0, x⟩, ⟨0, 1, 0, y⟩, ⟨0, 0, 1, 0⟩, ⟨0, 0, 0, 1⟩⟩

def Mat4.scaling (s : α) : Mat4 α := ⟨⟨s, 0, 0, 0⟩, ⟨0, s, 0, 0⟩, ⟨0, 0, 1, 0⟩, ⟨0, 0, 0, 1⟩⟩

def Mat4.place (x y s : α) : Mat4 α := translation x y * scaling s

/-- The projection of a surface whose rows grow downward. -/
def Mat4.screen (width height : Nat) : Mat4 α := ortho 0 (ofNat width) (ofNat height) 0 (-1) 1

end FireflyOverlay
