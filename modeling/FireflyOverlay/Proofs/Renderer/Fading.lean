import FireflyOverlay.Proofs.Renderer.Films

/-!
# Fading out

A fade-out request is never taken back, so that fading goes on once a frame has seen it; from there
on the scene changes in nothing but its opacities.

* `Control.watched`    the frames of a swarm that is played under a control, tick by tick;
* `FadeLaws`           the laws of fading, of swarms under a control and of a renderer's loop;
* `fadeLaws`           they hold.
-/

namespace FireflyOverlay

/-! ## under a control -/

/-- One frame for each tick.  It is fading if a fade-out request has arrived by then. -/
def Control.watched (c : Control) : List Tick → List Frame
  | [] => []
  | t :: ticks =>
    ⟨t.elapsed, (c.request t.requests).requests.fadeOut⟩ :: (c.request t.requests).watched ticks

theorem Control.fading_watched {c : Control} (h : c.requests.fadeOut = true) (ticks : List Tick) :
    ∀ f ∈ c.watched ticks, f.fading = true := by
  induction ticks generalizing c with
  | nil => exact nofun
  | cons t ticks ih =>
    have hnext : (c.request t.requests).requests.fadeOut = true :=
      (congrArg (· || t.requests.fadeOut) h).trans (Bool.true_or _)
    exact List.forall_mem_cons.mpr ⟨hnext, ih hnext⟩

theorem Control.staysFading_watched (c : Control) (ticks : List Tick) :
    StaysFading (c.watched ticks) := by
  induction ticks generalizing c with
  | nil => intro earlier first later he; cases earlier <;> cases he
  | cons t ticks ih =>
    intro earlier first later he hfirst
    cases earlier with
    | nil =>
      obtain ⟨rfl, rfl⟩ := List.cons.inj he
      exact Control.fading_watched hfirst ticks
    | cons g earlier => exact ih _ earlier first later (List.cons.inj he).2 hfirst

/-! ## the swarm of a renderer -/

theorem Renderer.reachable_scene {α : Type} [Scalar α] [Trig α] (r : Renderer α)
    (texture : TextureId) : (r.scene texture).swarm.Reachable :=
  .reset _ (.random _ _)

theorem Filmed.staysFading {α : Type} [Scalar α] [Trig α] {r : Renderer α} {ticks : List Tick}
    {c : Control} {es : List (Event α)} {texture : TextureId} {fs : List Frame}
    (h : Filmed r ticks c es texture fs) : StaysFading fs := by
  obtain ⟨_, _, _, -, -, -, hf, -⟩ := h
  exact hf.staysFading

/-! ## the laws -/

/-- For any scalars, and then in exact arithmetic. -/
structure FadeLaws : Prop where
  swarm : ∀ {α : Type} [Scalar α] [Trig α] (s : Swarm α) (units : Units α) (c : Control)
    (ticks : List Tick), s.FadesOut units (c.watched ticks)
  swarmExact : ∀ [Trig Rat] (s : Swarm Rat) (units : Units Rat) (c : Control) (ticks : List Tick),
    (∀ f ∈ s.fireflies, 0 ≤ f.opacity) → s.FadesExactly units (c.watched ticks)
  filmed : ∀ {α σ : Type} [Scalar α] [Trig α] [Display α σ] (r : Renderer α) (before : Requests)
    (ticks : List Tick) (display : σ), ∃ texture fs,
      Filmed r ticks .initial (r.life before ticks display).2.trace.toList texture fs
  loop : ∀ {α : Type} [Scalar α] [Trig α] (r : Renderer α) (ticks : List Tick)
    (es : List (Event α)) (texture : TextureId) (fs : List Frame),
    Filmed r ticks .initial es texture fs →
      (r.scene texture).swarm.FadesOut (r.scene texture).units fs
  loopExact : ∀ [Trig Rat] (r : Renderer Rat) (ticks : List Tick) (es : List (Event Rat))
    (texture : TextureId) (fs : List Frame), Filmed r ticks .initial es texture fs →
      (r.scene texture).swarm.FadesExactly (r.scene texture).units fs

/-- **Fading goes on and freezes.**  Of a swarm under a control, and of the loop of a renderer
however its run ends: once a frame is fading all later ones are, the fireflies keep all but their
opacities, no unit is taken, and in exact arithmetic an opacity is what the whole fading time leaves
of it. -/
theorem fadeLaws : FadeLaws where
  swarm s units c ticks := s.fadesOut_of_stays units (c.staysFading_watched ticks)
  swarmExact _ _ _ _ h := Swarm.fadesExactly_of_nonneg h _
  filmed r before ticks display := life_filmed r before ticks display
  loop r _ _ texture _ h := (r.scene texture).swarm.fadesOut_of_stays _ h.staysFading
  loopExact r _ _ texture _ _ :=
    Swarm.fadesExactly_of_nonneg (r.reachable_scene texture).opacity_nonneg _

end FireflyOverlay
