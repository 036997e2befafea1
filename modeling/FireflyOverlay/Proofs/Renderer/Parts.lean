import FireflyOverlay.Proofs.Parts
import FireflyOverlay.Renderer

/-!
# The stages of a run and their parts

What goes over from the parts of a play to the whole (`Play.Closed`) is followed through the stages
of a renderer.

* `closed_performAll`, `closed_loadSprite`   draw calls, and the sprite;
* `Renderer.furnish`   all that is left to prepare once the display is acquired (`prepare_eq`,
                       `closed_furnish`); `closed_prepare` is about both together;
* `closed_drawFrame`, `closed_frames`   a frame, and the loop;
* `closed_work`        a run until it is taken down.

Nothing is cleared before the first frame, which is why the calls of the preparation are told apart
from those of the frames.
-/

namespace FireflyOverlay

variable {α σ : Type} [Display α σ]

/-! ## draw calls -/

section
variable {P : (β : Type) → Play α σ β → Prop} {allowed : Call α → Prop} (h : Play.Closed P allowed)
include h

theorem closed_performDraw {c : DrawCall α} (hc : allowed (.draw c)) : P c.Reply (performDraw c) :=
  h.perform _ hc

theorem closed_performAll {cs : List (DrawCall α)} (ha : ∀ c ∈ cs, allowed (.draw c)) :
    P Unit (performAll cs) := by
  induction cs with
  | nil => exact h.pure ()
  | cons c cs ih =>
    obtain ⟨hc, hcs⟩ := List.forall_mem_cons.mp ha
    exact h.bind (closed_performDraw h hc) fun _ => ih hcs

theorem closed_warnOfSize (name : String) (m : Image) : P Unit (warnOfSize name m) := by
  unfold warnOfSize
  split
  · exact h.pure ()
  · exact h.log _ _

theorem closed_loadSprite (ha : ∀ c : DrawCall α, c ≠ .clear → allowed (.draw c))
    (decoder : ImageDecoder) (assets : AssetStore) (name : String) :
    P TextureId (loadSprite decoder assets name) := by
  refine h.bind (closed_performDraw h (ha .generateTexture nofun)) fun texture => ?_
  refine h.bind (closed_performDraw h (ha (.bindTexture texture) nofun)) fun _ => ?_
  cases readImage decoder assets name with
  | error e => exact h.bind (h.log _ _) fun _ => h.pure _
  | ok image =>
    refine h.bind (closed_warnOfSize h name image) fun _ => h.bind ?_ fun _ => h.pure _
    exact closed_performAll h fun c hc => ha c (by rintro rfl; simp [uploadSprite] at hc)

end

/-! ## preparing -/

variable [Scalar α]

/-- What is left to prepare. -/
def Renderer.furnish (r : Renderer α) : Play α σ (Except DisplayError (Scene α)) := do
  performDraw (.setClearColor .opaqueBlack)
  let texture ← loadSprite r.decoder r.assets r.settings.sprite
  performAll (screenSetup r.settings.surface)
  let (swarm, units) := populate r.settings.surface r.units
  return .ok ⟨texture, swarm, units⟩

theorem Renderer.prepare_eq (r : Renderer α) :
    (r.prepare : Play α σ (Except DisplayError (Scene α))) = (do
      match ← acquire r.window with
      | .error e => return .error e
      | .ok _ => r.furnish) := rfl

section
variable {P : (β : Type) → Play α σ β → Prop} {allowed : Call α → Prop} (h : Play.Closed P allowed)
include h

theorem closed_furnish (ha : ∀ c : DrawCall α, c ≠ .clear → allowed (.draw c)) (r : Renderer α) :
    P (Except DisplayError (Scene α)) r.furnish := by
  refine h.bind (closed_performDraw h (ha (.setClearColor .opaqueBlack) nofun)) fun _ => ?_
  refine h.bind (closed_loadSprite h ha _ _ _) fun texture => h.bind ?_ fun _ => h.pure _
  exact closed_performAll h fun c hc => ha c (by rintro rfl; simp [Renderer.screenSetup] at hc)

theorem closed_prepare (ha : ∀ c : DrawCall α, c ≠ .clear → allowed (.draw c)) {r : Renderer α}
    (hacquire : P (Except DisplayError Unit) (acquire r.window)) :
    P (Except DisplayError (Scene α)) r.prepare := by
  rw [r.prepare_eq]
  refine h.bind hacquire fun result => ?_
  cases result with
  | error e => exact h.pure _
  | ok _ => exact closed_furnish h ha r

/-! ## frames -/

variable [Trig α]

theorem closed_drawFrame (ha : ∀ c : DrawCall α, allowed (.draw c)) (scene : Scene α)
    (elapsed : Nat) : P (Scene α) (scene.drawFrame elapsed) := by
  refine h.bind (closed_performAll h fun c _ => ha c) fun _ => h.get fun s => ?_
  exact h.bind (closed_performAll h fun c _ => ha c) fun _ => h.pure _

theorem closed_frames (huse : ∀ c : Call α, c.isUse = true → allowed c)
    (hdraw : ∀ c : DrawCall α, allowed (.draw c)) (hrequest : ∀ r, P Unit (request r))
    (ticks : List Tick) (scene : Scene α) : P Exit (frames ticks scene) := by
  induction ticks generalizing scene with
  | nil => exact h.bind (hrequest _) fun _ => h.pure _
  | cons t ticks ih =>
    refine h.bind (hrequest _) fun _ => h.get fun s => ?_
    cases s.control.requests.stop with
    | true => exact h.pure _
    | false =>
      refine h.bind (closed_ensureCurrent h huse) fun ensured => ?_
      cases ensured with
      | error e => exact h.pure _
      | ok _ =>
        refine h.bind (closed_drawFrame h hdraw scene t.elapsed) fun scene' => ?_
        refine h.bind (closed_present h huse) fun presented => ?_
        cases presented with
        | error e => exact h.pure _
        | ok _ => exact ih scene'

theorem closed_work (huse : ∀ c : Call α, c.isUse = true → allowed c)
    (hdraw : ∀ c : DrawCall α, allowed (.draw c)) (hrequest : ∀ r, P Unit (request r))
    (hreach : ∀ l, l.rank < Lifecycle.draining.rank → P Unit (reach l)) {r : Renderer α}
    (hacquire : P (Except DisplayError Unit) (acquire r.window)) (ticks : List Tick) :
    P Exit (r.work ticks) := by
  refine h.bind (hreach _ (by decide)) fun _ => ?_
  refine h.bind (closed_prepare h (fun c _ => hdraw c) hacquire) fun result => ?_
  cases result with
  | error e => exact h.pure _
  | ok scene =>
    exact h.bind (hreach _ (by decide)) fun _ => closed_frames h huse hdraw hrequest ticks scene

end
end FireflyOverlay
