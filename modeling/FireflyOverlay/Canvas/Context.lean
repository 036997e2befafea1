import FireflyOverlay.Log.Record
import FireflyOverlay.Quad
import FireflyOverlay.Raster
import FireflyOverlay.Table

/-!
# Drawing contexts

The drawing state of one context, and what the draw calls do with it.

* `ContextState.apply`   the state after a draw call;
* `ContextState.paint`   the image of the current surface after a draw call: only `clear` and
                         `drawElements` paint;
* `ContextState.notes`   what a draw call logs.
-/

namespace FireflyOverlay
open Scalar

structure ContextState (α : Type) where
  textures : Table Texture
  /-- the name that was given out last; names count from 1, and have 32 bits as long as less than
  `2 ^ 32` are given out -/
  lastTexture : TextureId
  boundTexture : Option TextureId
  clearColor : Color α
  viewport : Option (Nat × Nat)
  projection : Mat4 α
  modelView : Mat4 α
  texturing : Bool
  blend : Option BlendFunc
  color : Color α
  /-- the quad's corners are enabled -/
  arrays : Bool

namespace ContextState

variable {α : Type} [Scalar α]

def initial : ContextState α :=
  { textures := [], lastTexture := 0, boundTexture := none, clearColor := .transparentBlack,
    viewport := none, projection := .identity, modelView := .identity, texturing := false,
    blend := none, color := .opaqueWhite, arrays := false }

def defaultViewport (s : ContextState α) (width height : Nat) : ContextState α :=
  { s with viewport := some (s.viewport.getD (width, height)) }

/-! ## textures -/

def modifyBound (s : ContextState α) (f : Texture → Texture) : ContextState α :=
  match s.boundTexture with
  | some name => { s with textures := s.textures.modify name f }
  | none => s

/-- A texture is bound that has been generated. -/
def hasTexture (s : ContextState α) : Bool := s.boundTexture.any s.textures.contains

/-- The image of an upload; none if it is empty or has too few bytes. -/
def uploaded? (width height : Nat) (rgba : Array UInt8) : Option Image :=
  if width = 0 ∨ height = 0 then none else Image.ofBytes? width height rgba

/-- The bound texture, while texturing is enabled. -/
def activeTexture? (s : ContextState α) : Option Texture := do
  let name ← s.boundTexture
  if s.texturing then s.textures.find? name else none

/-! ## draw calls -/

def apply (s : ContextState α) : DrawCall α → ContextState α
  | .setClearColor clearColor => { s with clearColor }
  | .setViewport width height => { s with viewport := some (width, height) }
  | .setProjection projection => { s with projection }
  | .setModelView modelView => { s with modelView }
  | .setTexturing texturing => { s with texturing }
  | .setBlend blend => { s with blend }
  | .generateTexture =>
    let name := s.lastTexture + 1
    { s with lastTexture := name, textures := s.textures.insert name .empty }
  | .bindTexture name => { s with boundTexture := some name }
  | .setTextureFilters min mag =>
    s.modifyBound fun t => { t with minFilter := min, magFilter := mag }
  | .uploadTexture width height rgba =>
    match uploaded? width height rgba with
    | some image => s.modifyBound fun t => { t with image := some image }
    | none => s
  | .enableQuadArrays => { s with arrays := true }
  | .disableQuadArrays => { s with arrays := false }
  | .setColor color => { s with color }
  | .clear | .setFrontFace _ | .drawElements _ => s

omit [Scalar α] in
/-- An upload changes nothing but the bound texture. -/
theorem apply_uploadTexture (s : ContextState α) (width height : Nat) (rgba : Array UInt8) :
    s.apply (.uploadTexture width height rgba) = s ∨
      ∃ f, s.apply (.uploadTexture width height rgba) = s.modifyBound f := by
  simp only [apply]
  split
  · exact .inr ⟨_, rfl⟩
  · exact .inl rfl

/-- What a draw takes from the state; the viewport defaults to the whole target. -/
def brush (s : ContextState α) (target : Image) : Brush α :=
  let (viewportWidth, viewportHeight) := s.viewport.getD (target.width, target.height)
  { transform := s.projection * s.modelView, viewportWidth, viewportHeight, color := s.color,
    texture := s.activeTexture?, blend := s.blend }

def paint [Root α] (s : ContextState α) (c : DrawCall α) (target : Image) : Image :=
  match c with
  | .clear => target.fill s.clearColor.toPixel
  | .drawElements indices =>
    if s.arrays then
      (s.brush target).drawElements Quad.corners Quad.spritePoints indices target
    else target
  | _ => target

theorem sameSize_paint [Root α] (s : ContextState α) (c : DrawCall α) (target : Image) :
    (s.paint c target).SameSize target := by
  cases c with
  | clear => exact ⟨target.width_fill _, target.height_fill _⟩
  | drawElements indices =>
    show Image.SameSize (if _ then _ else _) _
    split
    · exact Brush.sameSize_drawElements ..
    · exact .refl target
  | _ => exact .refl target

/-! ## records -/

def uploadNotes (width height bytes : Nat) : List LogRecord :=
  if width = 0 ∨ height = 0 then
    [⟨.warn, s!"Ignoring an empty {width}x{height} texture upload"⟩]
  else if bytes < 4 * width * height then
    [⟨.warn, s!"Ignoring a {width}x{height} texture upload with {bytes} bytes"⟩]
  else []

def drawNotes (arrays : Bool) (indices : List Nat) : List LogRecord :=
  if arrays then
    (Brush.skipped 4 indices).map fun (i, j, k) =>
      ⟨.trace, s!"Skipping triangle [{i}, {j}, {k}], index out of range"⟩
  else [⟨.trace, "Ignoring draw_elements without enabled arrays"⟩]

def notes (s : ContextState α) : DrawCall α → List LogRecord
  | .uploadTexture width height rgba =>
    if s.hasTexture then uploadNotes width height rgba.size else []
  | .drawElements indices => drawNotes s.arrays indices
  | _ => []

end ContextState
end FireflyOverlay
