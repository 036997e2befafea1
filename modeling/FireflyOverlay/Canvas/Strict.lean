import FireflyOverlay.Canvas.Checked

/-!
# Canvases that check their texel indices

The columns and the rows of a sprite are counted in 64 bits with a sign.  A mixed color reads the
texel at an index and the one after it, and the last index of 64 bits has none after it.

* `Image.overcounts`     mixing a color at a place goes on from the last index;
* `Brush.overcounts`     some pixel of a triangle is given such a place;
* `Canvas.overcounts`    a call that draws such a pixel;
* `StrictCanvas`         a checked canvas on which such a call crashes as well.
-/

namespace FireflyOverlay
open Scalar

variable {α : Type} [Scalar α]

namespace Image

/-- The last index of 64 bits with a sign. -/
def lastIndex : Int := 0x7fffffffffffffff

/-- The column or row to the upper left of a coordinate; the coordinate counts texels. -/
def cornerIndex (x : α) : Int := trunc (floor (x - 1 / 2))

def overcounts (m : Image) (filter : TextureFilter) (u v : α) : Bool :=
  match filter with
  | .nearest => false
  | .linear => decide (lastIndex ≤ cornerIndex (u * ofNat m.width)) ||
      decide (lastIndex ≤ cornerIndex (v * ofNat m.height))

end Image

namespace Brush

/-- The place on the sprite of a pixel of an oriented triangle. -/
def spritePlace (t : Triangle α) (area : α) (x y : Nat) : α × α :=
  (t.interpolate area t.a.u t.b.u t.c.u x y, t.interpolate area t.a.v t.b.v t.c.v x y)

def overcounts [Root α] (s : Brush α) (width height : Nat) (t : Triangle α) : Bool :=
  match t.oriented? with
  | none => false
  | some (t, area) => match s.sampler? t area with
    | none => false
    | some (image, filter) =>
      (t.pixels (min s.viewportWidth width) (min s.viewportHeight height)).any fun p =>
        let (u, v) := spritePlace t area p.1 p.2
        image.overcounts filter u v

end Brush

namespace ContextState

def overcounts [Root α] (s : ContextState α) (c : DrawCall α) (target : Image) : Bool :=
  match c with
  | .drawElements indices =>
    let brush := s.brush target
    s.arrays && (brush.triangles Quad.corners Quad.spritePoints indices).any
      (brush.overcounts target.width target.height)
  | _ => false

end ContextState

namespace Canvas

def overcounts [Root α] (s : Canvas α) : Call α → Bool
  | .draw c => match s.currentState? with
    | some (b, state) => (s.surfaces.find? b.surface).any fun t => state.overcounts c t.back
    | none => false
  | _ => false

end Canvas

structure StrictCanvas (α : Type) where
  checked : CheckedCanvas α

namespace StrictCanvas

def initial : StrictCanvas α := ⟨.initial⟩

def addWindow (s : StrictCanvas α) (width height : Nat) : StrictCanvas α :=
  ⟨s.checked.addWindow width height⟩

/-- Nothing is painted by a call that crashes. -/
def step [Root α] (c : Call α) (s : StrictCanvas α) : Reaction c.Reply × StrictCanvas α :=
  if s.checked.canvas.overcounts c then (.crash, s)
  else
    let (reaction, checked) := CheckedCanvas.step c s.checked
    (reaction, ⟨checked⟩)

instance [Root α] : Display α (StrictCanvas α) where
  step := step
  configText s config := Display.configText α s.checked config

end StrictCanvas
end FireflyOverlay
