import FireflyOverlay.Blend
import FireflyOverlay.Texture
import FireflyOverlay.Triangle

/-!
# Drawing triangles

* `Brush`           what a draw takes from the drawing state;
* `Brush.project`   a corner on the screen of the viewport;
* `Brush.fill`      one triangle: every covered pixel is blended once;
* `Brush.triangles`   the triangles of an index list: three indices each, those with an index
                    that names no corner are left out, one or two indices at the end are ignored;
* `Brush.drawElements`   all of them, one after the other.
-/

namespace FireflyOverlay
open Scalar

structure Brush (α : Type) where
  transform : Mat4 α
  viewportWidth : Nat
  viewportHeight : Nat
  color : Color α
  texture : Option Texture
  blend : Option BlendFunc

namespace Brush

variable {α : Type} [Scalar α]

def project (s : Brush α) (position : α × α × α) (sprite : α × α) : Vertex α :=
  let p := s.transform.applyPoint position.1 position.2.1 position.2.2
  { x := (p.x / p.w + 1) * (1 / 2) * ofNat s.viewportWidth
    y := (1 - p.y / p.w) * (1 / 2) * ofNat s.viewportHeight
    u := sprite.1
    v := sprite.2 }

/-! ## one triangle -/

/-- The image to sample and the filter: the one for shrinking where a pixel covers more than one
texel. -/
def sampler? [Root α] (s : Brush α) (t : Triangle α) (area : α) :
    Option (Image × TextureFilter) := do
  let texture ← s.texture
  let image ← texture.image
  return (image, if 1 < t.texelsPerPixel area image.width image.height then texture.minFilter
    else texture.magFilter)

/-- The color of a pixel of an oriented triangle. -/
def shade (s : Brush α) (t : Triangle α) (area : α) (sampler : Option (Image × TextureFilter))
    (x y : Nat) : Color α :=
  match sampler with
  | none => s.color
  | some (image, filter) =>
    let u := t.interpolate area t.a.u t.b.u t.c.u x y
    let v := t.interpolate area t.a.v t.b.v t.c.v x y
    (image.sample filter u v).modulate s.color

def paint [Root α] (s : Brush α) (t : Triangle α) (area : α) (target : Image) : Image :=
  let sampler := s.sampler? t area
  (t.pixels (min s.viewportWidth target.width) (min s.viewportHeight target.height)).foldl
    (fun m p => m.modify p.1 p.2 (FireflyOverlay.blend s.blend (s.shade t area sampler p.1 p.2)))
    target

def fill [Root α] (s : Brush α) (target : Image) (t : Triangle α) : Image :=
  match t.oriented? with
  | none => target
  | some (t, area) => s.paint t area target

theorem sameSize_fill [Root α] (s : Brush α) (target : Image) (t : Triangle α) :
    (s.fill target t).SameSize target := by
  unfold fill
  split
  · exact .refl target
  · exact Image.sameSize_foldl (fun m p => ⟨m.width_modify .., m.height_modify ..⟩) _ target

/-! ## index lists -/

/-- The indices in groups of three. -/
def triples : List Nat → List (Nat × Nat × Nat)
  | i :: j :: k :: rest => (i, j, k) :: triples rest
  | _ => []

/-- The corner of an index.  A corner without a place on the sprite has the place 0. -/
def corner? (s : Brush α) (positions : List (α × α × α)) (spritePoints : List (α × α)) (i : Nat) :
    Option (Vertex α) :=
  (positions[i]?).map fun p => s.project p ((spritePoints[i]?).getD (0, 0))

def triangle? (s : Brush α) (positions : List (α × α × α)) (spritePoints : List (α × α))
    (t : Nat × Nat × Nat) : Option (Triangle α) := do
  return ⟨← s.corner? positions spritePoints t.1, ← s.corner? positions spritePoints t.2.1,
    ← s.corner? positions spritePoints t.2.2⟩

def triangles (s : Brush α) (positions : List (α × α × α)) (spritePoints : List (α × α))
    (indices : List Nat) : List (Triangle α) :=
  (triples indices).filterMap (s.triangle? positions spritePoints)

def drawElements [Root α] (s : Brush α) (positions : List (α × α × α))
    (spritePoints : List (α × α)) (indices : List Nat) (target : Image) : Image :=
  (s.triangles positions spritePoints indices).foldl s.fill target

theorem sameSize_drawElements [Root α] (s : Brush α) (positions : List (α × α × α))
    (spritePoints : List (α × α)) (indices : List Nat) (target : Image) :
    (s.drawElements positions spritePoints indices target).SameSize target :=
  Image.sameSize_foldl s.sameSize_fill _ target

/-- The groups of three that are left out: those with an index beyond the corners. -/
def skipped (corners : Nat) (indices : List Nat) : List (Nat × Nat × Nat) :=
  (triples indices).filter fun (i, j, k) => corners ≤ i || corners ≤ j || corners ≤ k

theorem triples_cons (i j k : Nat) (rest : List Nat) :
    triples (i :: j :: k :: rest) = (i, j, k) :: triples rest := rfl

end Brush
end FireflyOverlay
