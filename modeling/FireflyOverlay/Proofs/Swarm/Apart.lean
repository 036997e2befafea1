import FireflyOverlay.Proofs.Canvas.Handles
import FireflyOverlay.Proofs.Canvas.Quiet
import FireflyOverlay.Proofs.Drawing.Dark

/-!
# Each firefly is drawn for itself

All fireflies are drawn with one drawing state.  Each sets what it needs before it is drawn, reads
nothing that another one has set, and leaves opaque white and disabled corners behind.

* `ContextState.retouched`   another place, color and corner switch: what a firefly sets for itself;
* `Setting`             what it takes from the state otherwise, and leaves as it is;
* `Setting.quad`        the one square of a firefly, by its place, scale and opacity;
* `Firefly.paintAll_swarm`   fireflies one after the other: a fold of single squares;
* `Canvas.run_firefly`, `Canvas.run_swarm`   all that their draw calls do to a canvas;
* `Canvas.run_draws_retouched`   what was set before them does not matter;
* `ApartLaws`           the laws of drawing apart, for swarms of any size and whole frames;
* `apartLaws`           they hold.
-/

namespace FireflyOverlay

variable {α : Type}

/-! ## the state of a context -/

/-- What the draws of fireflies read and leave alone. -/
structure Setting (α : Type) where
  projection : Mat4 α
  viewport : Option (Nat × Nat)
  texture : Option Texture
  blend : Option BlendFunc

namespace ContextState

/-- Another model view, color, and switch for the corners. -/
def retouched (s : ContextState α) (modelView : Mat4 α) (color : Color α) (arrays : Bool) :
    ContextState α := { s with modelView, color, arrays }

def setting (s : ContextState α) : Setting α :=
  ⟨s.projection, s.viewport, s.activeTexture?, s.blend⟩

theorem setting_retouched (s : ContextState α) (modelView : Mat4 α) (color : Color α)
    (arrays : Bool) : (s.retouched modelView color arrays).setting = s.setting := rfl

end ContextState

variable [Scalar α]

namespace Setting

/-- For a square with the upper left corner at `(x, y)`, on an image of the given size. -/
def brush (v : Setting α) (x y scale opacity : α) (width height : Nat) : Brush α :=
  { transform := v.projection * .place x y scale
    viewportWidth := (v.viewport.getD (width, height)).1
    viewportHeight := (v.viewport.getD (width, height)).2
    color := .white opacity
    texture := v.texture
    blend := v.blend }

/-- The pixels of a square, with the colors that are blended. -/
def blends [Root α] (v : Setting α) (x y scale opacity : α) (width height : Nat) :
    List ((Nat × Nat) × Color α) :=
  (v.brush x y scale opacity width height).blends Quad.corners Quad.spritePoints Quad.indices
    width height

def quad [Root α] (v : Setting α) (x y scale opacity : α) (m : Image) : Image :=
  (v.brush x y scale opacity m.width m.height).drawElements Quad.corners Quad.spritePoints
    Quad.indices m

theorem sameSize_quad [Root α] (v : Setting α) (x y scale opacity : α) (m : Image) :
    (v.quad x y scale opacity m).SameSize m := Brush.sameSize_drawElements ..

theorem quad_eq [Root α] (v : Setting α) (x y scale opacity : α) (m : Image) :
    v.quad x y scale opacity m =
      blendAll v.blend (v.blends x y scale opacity m.width m.height) m := by
  rw [quad, Brush.drawElements_eq]
  rfl

/-- The squares of some fireflies, one after the other. -/
def quads [Root α] (v : Setting α) (fs : List (Firefly α)) (m : Image) : Image :=
  fs.foldl (fun m f => v.quad f.x f.y f.scale f.opacity m) m

theorem sameSize_quads [Root α] (v : Setting α) (fs : List (Firefly α)) (m : Image) :
    (v.quads fs m).SameSize m := by
  induction fs generalizing m with
  | nil => exact .refl m
  | cons f fs ih => exact (ih _).trans (v.sameSize_quad f.x f.y f.scale f.opacity m)

/-- What is blended for a firefly depends on no other, nor on what they have painted. -/
theorem quads_eq [Root α] (v : Setting α) (fs : List (Firefly α)) (m : Image) :
    v.quads fs m = blendAll v.blend
      (fs.flatMap fun f => v.blends f.x f.y f.scale f.opacity m.width m.height) m := by
  induction fs generalizing m with
  | nil => rfl
  | cons f fs ih =>
    have hsize := v.sameSize_quad f.x f.y f.scale f.opacity m
    show v.quads fs (v.quad f.x f.y f.scale f.opacity m) = _
    rw [ih, hsize.1, hsize.2, quad_eq, ← blendAll_append, List.flatMap_cons]

end Setting

namespace Firefly

/-- The state that fireflies leave: the place of the last of them, and nothing of the others. -/
def leave (fs : List (Firefly α)) (state : ContextState α) : ContextState α :=
  fs.getLast?.elim state fun f => state.retouched f.modelView .opaqueWhite false

theorem replay_retouched (f : Firefly α) (state : ContextState α) (modelView : Mat4 α)
    (color : Color α) (arrays : Bool) :
    (state.retouched modelView color arrays).replay f.draws = state.replay f.draws := by
  rw [replay_draws, replay_draws]
  rfl

theorem replay_swarm (fs : List (Firefly α)) (state : ContextState α) :
    state.replay (fs.flatMap draws) = leave fs state := by
  induction fs generalizing state with
  | nil => rfl
  | cons f fs ih =>
    have hstate : state.replay f.draws = state.retouched f.modelView .opaqueWhite false :=
      f.replay_draws state
    rw [List.flatMap_cons, ContextState.replay_append, ih, hstate, leave, leave, List.getLast?_cons]
    cases fs.getLast? with
    | none => rfl
    | some g => rfl

variable [Root α]

theorem paintAll_quad (f : Firefly α) (state : ContextState α) (m : Image) :
    state.paintAll f.draws m = state.setting.quad f.x f.y f.scale f.opacity m := rfl

/-- **Fireflies one after the other**, all in the setting that the first one finds. -/
theorem paintAll_swarm (fs : List (Firefly α)) (state : ContextState α) (m : Image) :
    state.paintAll (fs.flatMap draws) m = state.setting.quads fs m := by
  induction fs generalizing state m with
  | nil => rfl
  | cons f fs ih =>
    have hsetting : (state.replay f.draws).setting = state.setting := by
      rw [replay_draws]
      rfl
    rw [List.flatMap_cons, ContextState.paintAll_append, ih, hsetting, paintAll_quad]
    rfl

end Firefly

/-! ## the canvas -/

namespace Canvas

variable {s : Canvas α} {b : Binding} {state : ContextState α}

/-- The context has another model view, color, and switch for the corners. -/
def retouched (s : Canvas α) (b : Binding) (modelView : Mat4 α) (color : Color α)
    (arrays : Bool) : Canvas α :=
  { s with contexts := s.contexts.modify b.context (·.retouched modelView color arrays) }

/-- The image that is drawn into. -/
def repainted (s : Canvas α) (b : Binding) (f : Image → Image) : Canvas α :=
  { s with surfaces := s.surfaces.modify b.surface fun t => { t with back := f t.back } }

omit [Scalar α] in
theorem find?_retouched (hc : s.contexts.find? b.context = some state) (modelView : Mat4 α)
    (color : Color α) (arrays : Bool) :
    (s.retouched b modelView color arrays).contexts.find? b.context =
      some (state.retouched modelView color arrays) :=
  Table.find?_modify_self hc (·.retouched modelView color arrays)

variable [Root α]

theorem run_draws_retouched (hb : s.current = some b)
    (hc : s.contexts.find? b.context = some state) (f : Firefly α) (modelView : Mat4 α)
    (color : Color α) (arrays : Bool) :
    (s.retouched b modelView color arrays).run (drawActions f.draws) =
      s.run (drawActions f.draws) := by
  rw [run_draws hb hc, run_draws (s := s.retouched b modelView color arrays) hb
    (find?_retouched hc modelView color arrays)]
  dsimp only [retouched]
  rw [Table.modify_modify]
  simp only [f.replay_retouched, f.paintAll_quad, ContextState.setting_retouched]

/-- All that the draw calls of a firefly do. -/
theorem run_firefly (hb : s.current = some b) (hc : s.contexts.find? b.context = some state)
    (f : Firefly α) :
    s.run (drawActions f.draws) = (s.retouched b f.modelView .opaqueWhite false).repainted b
      (state.setting.quad f.x f.y f.scale f.opacity) := by
  rw [run_draws hb hc]
  rfl

/-- All that the draw calls of fireflies do. -/
theorem run_swarm (hb : s.current = some b) (hc : s.contexts.find? b.context = some state)
    (fs : List (Firefly α)) :
    s.run (drawActions (fs.flatMap Firefly.draws)) =
      ({ s with contexts := s.contexts.modify b.context (Firefly.leave fs) } : Canvas α).repainted b
        (state.setting.quads fs) := by
  rw [run_draws hb hc]
  simp only [Firefly.replay_swarm, Firefly.paintAll_swarm]
  rfl

/-- What a frame sets up for its fireflies. -/
def frameSetting (state : ContextState α) (texture : TextureId) : Setting α :=
  ⟨state.projection, state.viewport, state.textures.find? texture, some .additive⟩

/-- The same for a frame, which first clears the image and sets up the state. -/
theorem run_frame (hb : s.current = some b) (hc : s.contexts.find? b.context = some state)
    (texture : TextureId) (swarm : Swarm α) :
    s.run (drawActions (frameSetup texture ++ swarm.draws)) =
      ({ s with contexts := s.contexts.modify b.context fun state =>
          Firefly.leave swarm.fireflies (state.replay (frameSetup texture)) } : Canvas α).repainted
        b fun m => (frameSetting state texture).quads swarm.fireflies
          (m.fill state.clearColor.toPixel) := by
  have hsetting : (state.replay (frameSetup texture)).setting = frameSetting state texture := rfl
  rw [run_draws hb hc]
  simp only [Swarm.draws, ContextState.replay_append, ContextState.paintAll_append,
    Firefly.replay_swarm, Firefly.paintAll_swarm, ContextState.paintAll_frameSetup, hsetting]
  rfl

/-! ### where a draw may crash -/

omit [Root α] in
/-- What a firefly sets up before its square. -/
theorem quiet_take (f : Firefly α) : ∀ c ∈ f.draws.take 4, c.Quiet := by
  intro c hc
  simp only [Firefly.draws, List.take_succ_cons, List.take_zero, List.mem_cons, List.not_mem_nil,
    or_false] at hc
  rcases hc with rfl | rfl | rfl | rfl <;> exact fun _ _ _ => ⟨rfl, rfl, rfl⟩

/-- Once all is set up, nothing is left of what was set before. -/
theorem run_take_retouched (hb : s.current = some b)
    (hc : s.contexts.find? b.context = some state) (f : Firefly α) (modelView : Mat4 α)
    (color : Color α) (arrays : Bool) :
    (s.retouched b modelView color arrays).run (drawActions (f.draws.take 4)) =
      s.run (drawActions (f.draws.take 4)) := by
  rw [run_draws hb hc, run_draws (s := s.retouched b modelView color arrays) hb
    (find?_retouched hc modelView color arrays)]
  dsimp only [retouched]
  rw [Table.modify_modify]
  rfl

open Play in
/-- On a checked canvas too: either both draws crash, at the same call, or none does. -/
theorem outcome_draws_retouched (hb : s.current = some b)
    (hc : s.contexts.find? b.context = some state) (f : Firefly α) (modelView : Mat4 α)
    (color : Color α) (arrays : Bool) (a : Session α (CheckedCanvas α)) :
    (performAll f.draws).outcome (a.on ⟨s.retouched b modelView color arrays⟩) =
      (performAll f.draws).outcome (a.on ⟨s⟩) := by
  obtain ⟨a', h, h'⟩ := outcome_quiet_all (quiet_take f) a hb hc
    (show (s.retouched b modelView color arrays).current = some b from hb)
    (find?_retouched hc modelView color arrays)
  rw [run_take_retouched hb hc] at h'
  have hcut : f.draws = f.draws.take 4 ++ f.draws.drop 4 := (List.take_append_drop 4 _).symm
  rw [hcut, outcome_performAll_append h, outcome_performAll_append h']

/-! ## the laws -/

/-- Of a canvas with a current binding, its state and its surface. -/
structure DrawsApart (s : Canvas α) (b : Binding) (state : ContextState α) (t : CanvasSurface) :
    Prop where
  context : s.contexts.find? b.context = some state
  surface : s.surfaces.find? b.surface = some t
  /-- whatever model view, color and corners were set, the canvas ends up the same -/
  overwrites : ∀ (f : Firefly α) modelView color arrays,
    (s.retouched b modelView color arrays).run (drawActions f.draws) = s.run (drawActions f.draws)
  crashes : ∀ (f : Firefly α) modelView color arrays (a : Session α (CheckedCanvas α)),
    (performAll f.draws).outcome (a.on ⟨s.retouched b modelView color arrays⟩) =
      (performAll f.draws).outcome (a.on ⟨s⟩)
  /-- this is all that a firefly changes -/
  firefly : ∀ f : Firefly α, s.run (drawActions f.draws) =
    (s.retouched b f.modelView .opaqueWhite false).repainted b
      (state.setting.quad f.x f.y f.scale f.opacity)
  swarm : ∀ swarm : Swarm α, s.run (drawActions swarm.draws) =
    ({ s with contexts := s.contexts.modify b.context (Firefly.leave swarm.fireflies) } :
      Canvas α).repainted b (state.setting.quads swarm.fireflies)
  frame : ∀ texture (swarm : Swarm α), s.run (drawActions (frameSetup texture ++ swarm.draws)) =
    ({ s with contexts := s.contexts.modify b.context fun state =>
        Firefly.leave swarm.fireflies (state.replay (frameSetup texture)) } : Canvas α).repainted
      b fun m => (frameSetting state texture).quads swarm.fireflies
        (m.fill state.clearColor.toPixel)

theorem Reachable.drawsApart (h : s.Reachable) (hb : s.current = some b) :
    ∃ state t, s.DrawsApart b state t := by
  obtain ⟨⟨state, hc⟩, t, ht⟩ := h.sound.bound b hb
  exact ⟨state, t, {
    context := hc
    surface := ht
    overwrites := run_draws_retouched hb hc
    crashes := outcome_draws_retouched hb hc
    firefly := run_firefly hb hc
    swarm := fun swarm => run_swarm hb hc swarm.fireflies
    frame := run_frame hb hc }⟩

end Canvas

structure ApartLaws : Prop where
  canvas : ∀ {α : Type} [Scalar α] [Root α] (s : Canvas α), s.Reachable →
    ∀ b, s.current = some b → ∃ state t, s.DrawsApart b state t
  /-- a square keeps the size of the image, and blends what its own firefly gives -/
  quad : ∀ {α : Type} [Scalar α] [Root α] (v : Setting α) (x y scale opacity : α) (m : Image),
    (v.quad x y scale opacity m).SameSize m ∧
      v.quad x y scale opacity m = blendAll v.blend (v.blends x y scale opacity m.width m.height) m
  /-- so do many: nothing that is blended for the one is changed by another -/
  quads : ∀ {α : Type} [Scalar α] [Root α] (v : Setting α) (fs : List (Firefly α)) (m : Image),
    (v.quads fs m).SameSize m ∧ v.quads fs m = blendAll v.blend
      (fs.flatMap fun f => v.blends f.x f.y f.scale f.opacity m.width m.height) m

/-- **Each firefly is drawn for itself.**  On a reachable canvas its draw does not see what model
view, color and corners were set before, and of the state it leaves only its own model view; so the
image of a frame is a fold of squares, each given by the place, scale and opacity of one firefly. -/
theorem apartLaws : ApartLaws where
  canvas _ h _ hb := h.drawsApart hb
  quad v x y scale opacity m := ⟨v.sameSize_quad x y scale opacity m, v.quad_eq x y scale opacity m⟩
  quads v fs m := ⟨v.sameSize_quads fs m, v.quads_eq fs m⟩

end FireflyOverlay
