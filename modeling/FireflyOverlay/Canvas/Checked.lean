import FireflyOverlay.Canvas

/-!
# Canvases that check their pixels

A draw keeps to the columns and rows below a limit, and the limit is a scalar.  A float is not every
whole number: a limit that is rounded up lets a draw reach for pixels that are not there.

* `Brush.reached`      the pixels that a draw reaches for, in order;
* `Canvas.overruns`    a call that reaches for a pixel outside of the image of its surface;
* `CheckedCanvas`      a canvas on which such a call crashes.
-/

namespace FireflyOverlay

variable {α : Type} [Scalar α]

namespace Brush

/-- The pixels that a triangle reaches for on an image of the given size. -/
def reachedBy (s : Brush α) (width height : Nat) (t : Triangle α) : List (Nat × Nat) :=
  match t.oriented? with
  | none => []
  | some (t, _) => t.pixels (min s.viewportWidth width) (min s.viewportHeight height)

def reached (s : Brush α) (positions : List (α × α × α)) (spritePoints : List (α × α))
    (indices : List Nat) (width height : Nat) : List (Nat × Nat) :=
  (s.triangles positions spritePoints indices).flatMap (s.reachedBy width height)

end Brush

namespace ContextState

/-- The pixels that a draw call reaches for on an image. -/
def reached (s : ContextState α) (c : DrawCall α) (target : Image) : List (Nat × Nat) :=
  match c with
  | .drawElements indices =>
    if s.arrays then
      (s.brush target).reached Quad.corners Quad.spritePoints indices target.width target.height
    else []
  | _ => []

/-- One of these pixels is not there. -/
def overruns (s : ContextState α) (c : DrawCall α) (target : Image) : Bool :=
  (s.reached c target).any fun p => !(decide (p.1 < target.width) && decide (p.2 < target.height))

end ContextState

namespace Canvas

def overruns (s : Canvas α) : Call α → Bool
  | .draw c => match s.currentState? with
    | some (b, state) => (s.surfaces.find? b.surface).any fun t => state.overruns c t.back
    | none => false
  | _ => false

end Canvas

structure CheckedCanvas (α : Type) where
  canvas : Canvas α

namespace CheckedCanvas

def initial : CheckedCanvas α := ⟨.initial⟩

def addWindow (s : CheckedCanvas α) (width height : Nat) : CheckedCanvas α :=
  ⟨s.canvas.addWindow width height⟩

/-- Nothing is painted by a call that crashes. -/
def step [Root α] (c : Call α) (s : CheckedCanvas α) : Reaction c.Reply × CheckedCanvas α :=
  if s.canvas.overruns c then (.crash, s)
  else
    let (reaction, canvas) := Canvas.step c s.canvas
    (reaction, ⟨canvas⟩)

instance [Root α] : Display α (CheckedCanvas α) where
  step := step
  configText s config := Display.configText α s.canvas config

end CheckedCanvas
end FireflyOverlay
