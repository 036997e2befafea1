import FireflyOverlay.Proofs.Renderer.Films
import FireflyOverlay.Proofs.Swarm.Stream

/-!
# The stream of a renderer

A renderer reads its units for two placements of the whole population, and from then on one for each
phase that runs out.  Hence what it draws depends on nothing but the units and the frames.

* `Scene.expiries`     how many phases run out in the frames of a scene;
* `units_scene`, `units_through`   the position of the stream before the first frame and after any;
* `StreamLaws`         the laws of the stream, for all calls and for renderers;
* `streamLaws`         they hold.
-/

namespace FireflyOverlay

variable {α : Type} [Scalar α]

/-! ## setting up -/

theorem populate_eq (surface : Surface) (units : Units α) :
    populate surface units =
      (⟨(Swarm.scatter surface (units.drop 200) population).1, surface⟩, units.drop 400) := by
  have hrandom : (Swarm.random surface units).2 = units.drop 200 :=
    Swarm.units_scatter surface units population
  have hlength := Swarm.length_random surface units
  have hagain : (units.drop 200).drop (2 * population) = units.drop 400 := Units.drop_drop ..
  show (Swarm.random surface units).1.reset (Swarm.random surface units).2 = _
  rw [hrandom]
  unfold Swarm.reset
  rw [hlength, ← hagain, ← Swarm.units_scatter surface]
  rfl

theorem units_scene (r : Renderer α) (texture : TextureId) :
    (r.scene texture).units = r.units.drop 400 := by
  show (populate r.settings.surface r.units).2 = _
  rw [populate_eq]

theorem placedFrom_scene (r : Renderer α) (texture : TextureId) :
    (r.scene texture).swarm.PlacedFrom r.settings.surface (r.units.drop 200) population := by
  show (populate r.settings.surface r.units).1.PlacedFrom _ _ _
  rw [populate_eq]
  exact Swarm.placedFrom_scatter ..

/-! ## frames -/

variable [Trig α]

namespace Scene

/-- How many phases run out; they stand still while a frame is fading. -/
def expiries (s : Scene α) : List Frame → Nat
  | [] => 0
  | f :: fs => (if f.fading then 0 else Swarm.expiries f.elapsed s.swarm.fireflies) +
      (s.after f.elapsed f.fading).expiries fs

theorem units_after (s : Scene α) (f : Frame) :
    (s.after f.elapsed f.fading).units = s.units.drop
      (if f.fading then 0 else Swarm.expiries f.elapsed s.swarm.fireflies) := by
  have htakes : f.action.takes s.swarm =
      if f.fading then 0 else Swarm.expiries f.elapsed s.swarm.fireflies := by
    obtain ⟨elapsed, fading⟩ := f
    cases fading <;> rfl
  rw [← htakes]
  exact s.swarm.units_act s.units f.action

theorem units_through (s : Scene α) (fs : List Frame) :
    (s.through fs).units = s.units.drop (s.expiries fs) := by
  induction fs generalizing s with
  | nil => rfl
  | cons f fs ih =>
    show ((s.after f.elapsed f.fading).through fs).units = _
    rw [ih, units_after, Units.drop_drop]
    rfl

theorem movedFrom_through (s : Scene α) (fs : List Frame) {f : Frame} (hf : f.fading = false) :
    (s.through fs).swarm.MovedFrom (s.through (fs ++ [f])).swarm f.elapsed
      (s.units.drop (s.expiries fs)) := by
  have hnext : (s.through (fs ++ [f])).swarm =
      ((s.through fs).swarm.advance f.elapsed false (s.through fs).units).1 := by
    rw [through_append, ← hf]
    rfl
  rw [hnext, units_through]
  exact (s.through fs).swarm.movedFrom_advance f.elapsed _

end Scene

/-! ## the laws -/

structure StreamLaws : Prop where
  /-- of the calls of any swarms that share a stream, in any sequence -/
  calls : ∀ {α : Type} [Scalar α] [Trig α] (w : Flock α) (cs : List FlockCall), w.Aligned cs
  /-- the population is placed by the units 200 to 399 -/
  setup : ∀ {α : Type} [Scalar α] (r : Renderer α) (texture : TextureId),
    (r.scene texture).units = r.units.drop 400 ∧
      (r.scene texture).swarm.PlacedFrom r.settings.surface (r.units.drop 200) population
  frames : ∀ {α : Type} [Scalar α] [Trig α] (r : Renderer α) (texture : TextureId)
    (fs : List Frame), ((r.scene texture).through fs).units =
      r.units.drop (400 + (r.scene texture).expiries fs)
  moved : ∀ {α : Type} [Scalar α] [Trig α] (r : Renderer α) (texture : TextureId)
    (fs : List Frame) (f : Frame), f.fading = false →
      ((r.scene texture).through fs).swarm.MovedFrom ((r.scene texture).through (fs ++ [f])).swarm
        f.elapsed (r.units.drop (400 + (r.scene texture).expiries fs))
  /-- this is the scene that a renderer prepares -/
  prepared : ∀ {α σ : Type} [Scalar α] [Display α σ] (r : Renderer α) (s : Session α σ),
    r.prepare.Returns s fun result _ _ =>
      ∀ scene, result = .ok scene → scene = r.scene scene.texture
  /-- and these are the frames that it draws, however its run ends -/
  filmed : ∀ {α σ : Type} [Scalar α] [Trig α] [Display α σ] (r : Renderer α) (before : Requests)
    (ticks : List Tick) (display : σ), ∃ texture fs,
      Filmed r ticks .initial (r.life before ticks display).2.trace.toList texture fs

/-- **Every unit has its reader.**  A placement takes two units for each firefly, and a frame takes
one for each phase that runs out, both in the order of the population.  A renderer is at unit 400
before its first frame, and later by one for each phase that ran out since. -/
theorem streamLaws : StreamLaws where
  calls w cs := w.aligned cs
  setup r texture := ⟨units_scene r texture, placedFrom_scene r texture⟩
  frames r texture fs := by
    rw [Scene.units_through, units_scene, Units.drop_drop]
  moved r texture fs f hf := by
    rw [← Units.drop_drop, ← units_scene r texture]
    exact (r.scene texture).movedFrom_through fs hf
  prepared r s := (returns_prepare r s).mono fun result _ _ _ h scene hscene => by
    obtain ⟨_, _, -, h⟩ := h
    rw [hscene] at h
    exact h.2.1
  filmed r before ticks display := life_filmed r before ticks display

end FireflyOverlay
