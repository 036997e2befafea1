import FireflyOverlay.Proofs.Cut
import FireflyOverlay.Proofs.Renderer.Parts
import FireflyOverlay.Proofs.Renderer.Trace
import FireflyOverlay.Proofs.Swarm.Fading

/-!
# The frames that a renderer draws

What a run draws is told frame by frame, also where a crash cuts it short.

* `Scene.through`, `Scene.film`   what frames make of a scene, and the draw calls that show them;
* `Films scene c ticks es fs`     the stretch `es` of a loop draws the frames `fs`: their times are
                       those of the ticks, and each is fading if a fade-out request has arrived
                       when its first firefly is updated;
* `Films.staysFading`  requests are never taken back, so that fading goes on;
* `ends_frames`        the loop draws such frames, and leaves none out unless a call crashes;
* `Filmed`, `life_filmed`         the same of a whole run.
-/

namespace FireflyOverlay

/-- A fade-out request stays. -/
theorem Control.fadeOut_after {α : Type} {c : Control} (h : c.requests.fadeOut = true)
    (es : List (Event α)) : (c.after es).requests.fadeOut = true := by
  induction es generalizing c with
  | nil => exact h
  | cons e es ih =>
    refine ih ?_
    cases e with
    | request r => exact (congrArg (· || r.fadeOut) h).trans (Bool.true_or _)
    | call _ _ => exact h
    | log _ => exact h
    | state _ => exact h

variable {α σ : Type} [Scalar α] [Trig α]

/-! ## the frames of a scene -/

namespace Scene

def through (s : Scene α) (fs : List Frame) : Scene α :=
  { s with swarm := (s.swarm.play s.units fs).1, units := (s.swarm.play s.units fs).2 }

def film (s : Scene α) : List Frame → List (DrawCall α)
  | [] => []
  | f :: fs => frameSetup s.texture ++ (s.after f.elapsed f.fading).swarm.draws ++
      film (s.after f.elapsed f.fading) fs

theorem through_append (s : Scene α) (fs gs : List Frame) :
    s.through (fs ++ gs) = (s.through fs).through gs := by
  show ({ s with swarm := _, units := _ } : Scene α) = _
  rw [Swarm.play_append]
  rfl

theorem film_append (s : Scene α) (fs gs : List Frame) :
    s.film (fs ++ gs) = s.film fs ++ (s.through fs).film gs := by
  induction fs generalizing s with
  | nil => rfl
  | cons f fs ih =>
    have hrest : (s.after f.elapsed f.fading).film (fs ++ gs) =
        (s.after f.elapsed f.fading).film fs ++ (s.through (f :: fs)).film gs := ih _
    show _ ++ (s.after f.elapsed f.fading).film (fs ++ gs) = _
    rw [hrest, ← List.append_assoc]
    rfl

/-- Each frame draws something. -/
theorem length_film_lt (s : Scene α) (fs : List Frame) (f : Frame) (gs : List Frame) :
    (s.film fs).length < (s.film (fs ++ f :: gs)).length := by
  have hframe : 0 < ((s.through fs).film (f :: gs)).length := by
    show 0 < (frameSetup _ ++ _ ++ _ : List (DrawCall α)).length
    rw [List.length_append, List.length_append, show (frameSetup _ : List _).length = 4 from rfl]
    omega
  rw [film_append, List.length_append]
  omega

end Scene

/-! ## one frame -/

/-- The events of a whole frame.  It is fading if a fade-out request has arrived by the time its
setup is drawn. -/
def Shot (f : Frame) (c : Control) (scene : Scene α) (es : List (Event α)) : Prop :=
  ∃ setup lights, es = setup ++ lights ∧ drawCalls setup = frameSetup scene.texture ∧
    f.fading = (c.after setup).requests.fadeOut ∧
    drawCalls lights = (scene.after f.elapsed f.fading).swarm.draws

/-- The events of a frame that ends too early. -/
def CutShort (elapsed : Nat) (c : Control) (scene : Scene α) (es : List (Event α)) : Prop :=
  drawCalls es <+: frameSetup scene.texture ∨ ∃ setup lights, es = setup ++ lights ∧
    drawCalls setup = frameSetup scene.texture ∧
    drawCalls lights <+: (scene.after elapsed (c.after setup).requests.fadeOut).swarm.draws

section
variable {f : Frame} {elapsed : Nat} {c : Control} {scene : Scene α} {es gs : List (Event α)}

theorem Shot.append (h : Shot f c scene es) (hg : drawCalls gs = []) :
    Shot f c scene (es ++ gs) := by
  obtain ⟨setup, lights, rfl, hs, hf, hl⟩ := h
  refine ⟨setup, lights ++ gs, List.append_assoc .., hs, hf, ?_⟩
  rw [drawCalls_append, hg, List.append_nil, hl]

theorem Shot.prepend (hg : drawCalls gs = []) (h : Shot f (c.after gs) scene es) :
    Shot f c scene (gs ++ es) := by
  obtain ⟨setup, lights, rfl, hs, hf, hl⟩ := h
  refine ⟨gs ++ setup, lights, (List.append_assoc ..).symm, ?_, ?_, hl⟩
  · rw [drawCalls_append, hg, hs, List.nil_append]
  · rw [hf, Control.after_append]

theorem CutShort.prepend (hg : drawCalls gs = []) (h : CutShort elapsed (c.after gs) scene es) :
    CutShort elapsed c scene (gs ++ es) := by
  rcases h with h | ⟨setup, lights, rfl, hs, hl⟩
  · refine .inl ?_
    rw [drawCalls_append, hg]
    exact h
  · refine .inr ⟨gs ++ setup, lights, (List.append_assoc ..).symm, ?_, ?_⟩
    · rw [drawCalls_append, hg, hs, List.nil_append]
    · rw [Control.after_append]
      exact hl

theorem CutShort.of_nothing (h : drawCalls es = []) : CutShort elapsed c scene es :=
  .inl (by rw [h]; exact List.nil_prefix)

theorem Shot.cutShort (h : Shot f c scene es) : CutShort f.elapsed c scene es := by
  obtain ⟨setup, lights, rfl, hs, hf, hl⟩ := h
  exact .inr ⟨setup, lights, rfl, hs, hf ▸ hl ▸ List.prefix_rfl⟩

end

/-! ## frame by frame -/

structure Films (scene : Scene α) (c : Control) (ticks : List Tick) (es : List (Event α))
    (fs : List Frame) : Prop where
  times : fs.map Frame.elapsed <+: ticks.map Tick.elapsed
  flags : ∀ earlier f later, fs = earlier ++ f :: later → ∃ pre post, es = pre ++ post ∧
    drawCalls pre = scene.film earlier ++ frameSetup scene.texture ∧
    f.fading = (c.after pre).requests.fadeOut
  /-- The setup of one more frame may have begun. -/
  drawn : drawCalls es <+: scene.film fs ++ frameSetup scene.texture

namespace Films

variable {scene : Scene α} {c : Control} {t : Tick} {ticks : List Tick}
  {es gs : List (Event α)} {fs : List Frame}

theorem none (h : drawCalls es <+: frameSetup scene.texture) : Films scene c ticks es [] where
  times := List.nil_prefix
  flags earlier _ _ he := by cases earlier <;> cases he
  drawn := h

theorem still (h : drawCalls es = []) :
    Films scene c ticks es [] ∧ drawCalls es = scene.film [] :=
  ⟨.none (by rw [h]; exact List.nil_prefix), h⟩

/-- A whole frame, and then the rest of the loop. -/
theorem cons {f : Frame} (he : f.elapsed = t.elapsed) (h : Shot f c scene es)
    (rest : Films (scene.after f.elapsed f.fading) (c.after es) ticks gs fs) :
    Films scene c (t :: ticks) (es ++ gs) (f :: fs) := by
  obtain ⟨setup, lights, rfl, hs, hf, hl⟩ := h
  refine ⟨?_, fun earlier g later heq => ?_, ?_⟩
  · show f.elapsed :: _ <+: t.elapsed :: _
    rw [he]
    exact (List.prefix_cons_inj t.elapsed).mpr rest.times
  · cases earlier with
    | nil =>
      obtain ⟨rfl, -⟩ := List.cons.inj heq
      exact ⟨setup, lights ++ gs, List.append_assoc .., hs, hf⟩
    | cons g' earlier =>
      obtain ⟨rfl, htail⟩ := List.cons.inj heq
      obtain ⟨pre, post, rfl, hd, hg⟩ := rest.flags earlier g later htail
      refine ⟨setup ++ lights ++ pre, post, (List.append_assoc ..).symm, ?_, ?_⟩
      · rw [drawCalls_append, drawCalls_append, hs, hl, hd, ← List.append_assoc]
        rfl
      · rw [hg, ← Control.after_append]
  · rw [drawCalls_append, drawCalls_append, hs, hl]
    show _ <+: _ ++ _ ++ _ ++ _
    rw [List.append_assoc (_ ++ _)]
    exact (List.prefix_append_right_inj _).mpr rest.drawn

theorem film_cons {f : Frame} (h : Shot f c scene es) (fs : List Frame) :
    scene.film (f :: fs) = drawCalls es ++ (scene.after f.elapsed f.fading).film fs := by
  obtain ⟨setup, lights, rfl, hs, -, hl⟩ := h
  rw [drawCalls_append, hs, hl]
  rfl

/-- A frame that is cut short is the last one, if it counts at all. -/
theorem of_cutShort (h : CutShort t.elapsed c scene es) :
    ∃ fs, Films scene c (t :: ticks) es fs := by
  rcases h with h | ⟨setup, lights, rfl, hs, hl⟩
  · exact ⟨[], .none h⟩
  refine ⟨[⟨t.elapsed, (c.after setup).requests.fadeOut⟩],
    (List.prefix_cons_inj t.elapsed).mpr List.nil_prefix, fun earlier f later he => ?_, ?_⟩
  · cases earlier with
    | nil =>
      obtain ⟨rfl, -⟩ := List.cons.inj he
      exact ⟨setup, lights, rfl, hs, rfl⟩
    | cons g earlier => cases earlier <;> cases (List.cons.inj he).2
  · rw [drawCalls_append, hs]
    refine List.IsPrefix.trans ((List.prefix_append_right_inj _).mpr hl) ?_
    show _ <+: _ ++ _ ++ [] ++ _
    rw [List.append_nil]
    exact List.prefix_append _ _

/-- Fading goes on: the control of a later frame has heard what that of an earlier one has. -/
theorem staysFading (h : Films scene c ticks es fs) : StaysFading fs := by
  rintro earlier first later rfl hfading g hg
  obtain ⟨between, last, rfl⟩ := List.append_of_mem hg
  obtain ⟨pre, post, he, hd, hf⟩ := h.flags earlier first _ rfl
  obtain ⟨pre', post', he', hd', hf'⟩ := h.flags (earlier ++ first :: between) g last (by simp)
  have hlt : (drawCalls pre).length < (drawCalls pre').length := by
    rw [hd, hd', List.length_append, List.length_append]
    exact Nat.add_lt_add_right (scene.length_film_lt earlier first between) _
  have hpre : pre <+: es := ⟨post, he.symm⟩
  have hpre' : pre' <+: es := ⟨post', he'.symm⟩
  rcases List.prefix_or_prefix_of_prefix hpre hpre' with ⟨mid, rfl⟩ | ⟨mid, rfl⟩
  · rw [hf', Control.after_append]
    exact Control.fadeOut_after (hf ▸ hfading) mid
  · rw [drawCalls_append, List.length_append] at hlt
    omega

end Films

/-! ## the loop -/

section
variable [Display α σ]
open Play

theorem ends_drawFrame (scene : Scene α) (elapsed : Nat) (s : Session α σ) :
    (scene.drawFrame elapsed).Ends s (CutShort elapsed s.control scene)
      fun scene' es => ∃ f, f.elapsed = elapsed ∧ scene' = scene.after f.elapsed f.fading ∧
        Shot f s.control scene es := by
  refine (ends_performAll _ s).bind (fun _ _ h => .inl h) fun _ setup s₁ hp hsetup => .get ?_
  rw [hp.control]
  refine (ends_performAll _ s₁).bind (fun lights _ hl => ?_) fun _ lights s₂ _ hl => .pure ?_
  · exact .inr ⟨setup, lights, rfl, hsetup, hl⟩
  · exact ⟨⟨elapsed, (s.control.after setup).requests.fadeOut⟩, rfl, rfl, setup, lights,
      by rw [List.append_nil], hsetup, rfl, hl⟩

/-- **The frames of a loop**, wherever a crash may end it. -/
theorem ends_frames (ticks : List Tick) (scene : Scene α) (s : Session α σ) :
    (frames ticks scene).Ends s (fun es => ∃ fs, Films scene s.control ticks es fs)
      fun _ es => ∃ fs, Films scene s.control ticks es fs ∧ drawCalls es = scene.film fs := by
  induction ticks generalizing scene s with
  | nil =>
    refine (ends_request _ s (R := fun _ => False)).bind (fun _ _ h => h.elim) ?_
    rintro _ _ s' _ rfl
    exact .pure ⟨[], Films.still (by rw [List.append_nil, drawCalls_requestEvents])⟩
  | cons t ticks ih =>
    refine (ends_request t.requests s (R := fun _ => False)).bind (fun _ _ h => h.elim) ?_
    rintro _ _ s₁ hp₁ rfl
    have hr : drawCalls (requestEvents t.requests : List (Event α)) = [] :=
      drawCalls_requestEvents _
    refine .get ?_
    cases hstop : s₁.control.requests.stop with
    | true => exact .pure ⟨[], Films.still (by rw [List.append_nil, hr])⟩
    | false =>
      refine (drawsNothing_ensureCurrent s₁).bind (fun ready _ h => ?_) fun r ready s₂ hp₂ h => ?_
      · exact Films.of_cutShort (.prepend hr (.of_nothing (nil_of_nothing h)))
      have hready : drawCalls ready = [] := nil_of_nothing h
      cases r with
      | error e =>
        have hq : drawCalls (requestEvents t.requests ++ ready) = [] := by
          rw [drawCalls_append, hr, hready]
          rfl
        exact .pure ⟨[], Films.still (by rw [List.append_nil, hq])⟩
      | ok _ =>
        refine (ends_drawFrame scene t.elapsed s₂).bind (fun drawn _ h => ?_)
          fun scene' drawn s₃ hp₃ h => ?_
        · rw [hp₂.control, hp₁.control] at h
          exact Films.of_cutShort (.prepend hr (.prepend hready h))
        obtain ⟨f, hf, rfl, h⟩ := h
        rw [hp₂.control, hp₁.control] at h
        have hshot : ∀ shown : List (Event α), (∀ c ∈ drawCalls shown, False) →
            Shot f s.control scene (requestEvents t.requests ++ (ready ++ (drawn ++ shown))) :=
          fun shown hn => .prepend hr (.prepend hready (h.append (nil_of_nothing hn)))
        refine (drawsNothing_present s₃).bind (fun shown _ h => ?_) fun r shown s₄ hp₄ h => ?_
        · exact Films.of_cutShort (hf ▸ (hshot shown h).cutShort)
        have hc₄ : s₄.control =
            s.control.after (requestEvents t.requests ++ (ready ++ (drawn ++ shown))) :=
          (hp₁.trans (hp₂.trans (hp₃.trans hp₄))).control
        have hassoc : ∀ es : List (Event α), requestEvents t.requests ++ (ready ++ (drawn ++
            (shown ++ es))) = requestEvents t.requests ++ (ready ++ (drawn ++ shown)) ++ es := by
          intro es
          simp only [List.append_assoc]
        have hcons : ∀ gs fs, Films (scene.after f.elapsed f.fading) s₄.control ticks gs fs →
            Films scene s.control (t :: ticks)
              (requestEvents t.requests ++ (ready ++ (drawn ++ shown)) ++ gs) (f :: fs) := by
          intro gs fs hrest
          rw [hc₄] at hrest
          exact .cons hf (hshot shown h) hrest
        cases r with
        | error e =>
          refine .pure ⟨[f], ?_⟩
          rw [hassoc, Films.film_cons (hshot shown h), List.append_nil]
          exact ⟨List.append_nil (requestEvents t.requests ++ _) ▸
            hcons [] [] (.none List.nil_prefix),
            (List.append_nil _).symm⟩
        | ok _ =>
          refine (ih _ s₄).mono (fun es _ ⟨fs, hfs⟩ => ?_) fun _ es ⟨fs, hfs, hd⟩ => ?_
          · rw [hassoc]
            exact ⟨f :: fs, hcons es fs hfs⟩
          · rw [hassoc]
            refine ⟨f :: fs, hcons es fs hfs, ?_⟩
            rw [drawCalls_append, hd, Films.film_cons (hshot shown h)]

end

/-! ## a whole run -/

/-- The stretch `es` of a run draws the frames `fs`.  Each of them begins with a clear: nothing
before them does, and after them nothing is drawn. -/
def Filmed (r : Renderer α) (ticks : List Tick) (c : Control) (es : List (Event α))
    (texture : TextureId) (fs : List Frame) : Prop :=
  ∃ prior loop down, es = prior ++ loop ++ down ∧ (∀ d ∈ drawCalls prior, d ≠ .clear) ∧
    drawCalls down = [] ∧ Films (r.scene texture) (c.after prior) ticks loop fs ∧
    (Crashed es ∨ drawCalls loop = (r.scene texture).film fs)

section
variable {r : Renderer α} {ticks : List Tick} {c : Control} {es gs : List (Event α)}
  {texture : TextureId} {fs : List Frame}

theorem Filmed.append (h : Filmed r ticks c es texture fs) (hg : drawCalls gs = []) :
    Filmed r ticks c (es ++ gs) texture fs := by
  obtain ⟨prior, loop, down, rfl, hp, hd, hf, hw⟩ := h
  refine ⟨prior, loop, down ++ gs, by simp, hp, ?_, hf, hw.imp_left Crashed.append_left⟩
  rw [drawCalls_append, hd, hg]
  rfl

theorem Filmed.prepend (hg : ∀ d ∈ drawCalls gs, d ≠ .clear)
    (h : Filmed r ticks (c.after gs) es texture fs) :
    Filmed r ticks c (gs ++ es) texture fs := by
  obtain ⟨prior, loop, down, rfl, hp, hd, hf, hw⟩ := h
  refine ⟨gs ++ prior, loop, down, by simp, ?_, hd, ?_, hw.imp_left Crashed.append_right⟩
  · rw [drawCalls_append]
    exact List.forall_mem_append.mpr ⟨hg, hp⟩
  · rw [Control.after_append]
    exact hf

/-- No frame begins. -/
theorem filmed_nil (texture : TextureId) (h : ∀ d ∈ drawCalls es, d ≠ .clear) :
    Filmed r ticks c es texture [] :=
  ⟨es, [], [], by simp, h, rfl, .none List.nil_prefix, .inr rfl⟩

end

section
variable [Display α σ]
open Play

omit [Trig α] in
theorem drawsOnly_prepare (r : Renderer α) :
    (r.prepare : Play α σ (Except DisplayError (Scene α))).DrawsOnly (· ≠ .clear) :=
  closed_prepare (closed_drawsOnly _) (fun c hc _ hd => by cases hd; exact hc)
    (.of_nothing (drawsNothing_acquire _))

theorem ends_work (r : Renderer α) (ticks : List Tick) (s : Session α σ) :
    (r.work ticks).Ends s (fun es => ∃ texture fs, Filmed r ticks s.control es texture fs)
      fun _ es => ∃ texture fs, Filmed r ticks s.control es texture fs := by
  have hquiet : ∀ es : List (Event α), drawCalls es = [] → ∀ d ∈ drawCalls es, d ≠ .clear := by
    intro es h d hd
    rw [h] at hd
    exact absurd hd List.not_mem_nil
  refine ((drawsNothing_reach .preparing).nil s).bind (fun es _ h => ?_) fun _ es₁ s₁ hp₁ h₁ => ?_
  · exact ⟨0, [], filmed_nil 0 (hquiet es h)⟩
  refine ((drawsOnly_prepare r s₁).and_returns (returns_prepare r s₁)).bind (fun es _ h => ?_)
    fun result es₂ s₂ hp₂ h₂ => ?_
  · exact ⟨0, [], .prepend (hquiet es₁ h₁) (filmed_nil 0 h)⟩
  obtain ⟨h₂, s', acq, prep, -, hscene⟩ := h₂
  cases result with
  | error e =>
    refine .pure ⟨0, [], .prepend (hquiet es₁ h₁) ?_⟩
    rw [List.append_nil]
    exact filmed_nil 0 h₂
  | ok scene =>
    obtain ⟨-, hscene, -⟩ := hscene
    refine ((drawsNothing_reach .running).nil s₂).bind (fun es _ h => ?_) fun _ es₃ s₃ hp₃ h₃ => ?_
    · exact ⟨0, [], .prepend (hquiet es₁ h₁) (.prepend h₂ (filmed_nil 0 (hquiet es h)))⟩
    have hc : s₃.control = (((s.control.after es₁).after es₂).after es₃) := by
      rw [hp₃.control, hp₂.control, hp₁.control]
    have hloop : ∀ loop fs, Films scene s₃.control ticks loop fs →
        (Crashed loop ∨ drawCalls loop = scene.film fs) → ∃ texture fs,
        Filmed r ticks s.control (es₁ ++ (es₂ ++ (es₃ ++ loop))) texture fs := by
      intro loop fs hf hw
      refine ⟨scene.texture, fs, .prepend (hquiet es₁ h₁) (.prepend h₂ ?_)⟩
      refine .prepend (hquiet es₃ h₃) ?_
      rw [hscene, hc] at hf
      rw [hscene] at hw
      exact ⟨[], loop, [], by simp, nofun, rfl, hf, hw⟩
    exact (ends_frames ticks scene s₃).mono (fun loop hcr ⟨fs, hf⟩ => hloop loop fs hf (.inl hcr))
      fun _ loop ⟨fs, hf, hd⟩ => hloop loop fs hf (.inr hd)

theorem ends_live (r : Renderer α) (ticks : List Tick) (s : Session α σ) :
    (r.live ticks).Ends s (fun es => ∃ texture fs, Filmed r ticks s.control es texture fs)
      fun _ es => ∃ texture fs, Filmed r ticks s.control es texture fs := by
  refine (ends_work r ticks s).then_nothing (fun exit s' => DrawsOnly.nil ?_ s') ?_
  · refine (drawsNothing_reach _).bind fun _ => drawsNothing_release.bind fun _ => ?_
    refine (drawsNothing_reach _).bind fun _ => (drawsNothing_log _ _).bind fun _ => ?_
    exact drawsNothing_release.bind fun _ => .pure _
  · rintro es fs ⟨texture, frames, h⟩ hfs
    exact ⟨texture, frames, h.append hfs⟩

theorem ends_run (r : Renderer α) (ticks : List Tick) (s : Session α σ) :
    (r.run ticks).Ends s (fun es => ∃ texture fs, Filmed r ticks s.control es texture fs)
      fun _ es => ∃ texture fs, Filmed r ticks s.control es texture fs := by
  have hdown : (do reach .terminated; release : Play α σ Unit).DrawsNothing :=
    (drawsNothing_reach _).bind fun _ => drawsNothing_release
  refine .tryCatch (ends_live r ticks s) fun es s' _ ⟨texture, fs, h⟩ => ?_
  exact (hdown.nil s').mono (fun gs _ hg => ⟨texture, fs, h.append hg⟩)
    fun _ gs hg => ⟨texture, fs, h.append hg⟩

/-- **The frames of a run**, however it ends. -/
theorem life_filmed (r : Renderer α) (before : Requests) (ticks : List Tick) (display : σ) :
    ∃ texture fs,
      Filmed r ticks .initial (r.life before ticks display).2.trace.toList texture fs := by
  have hends : Play.Ends (do request before; r.run ticks) (.ofDisplay display)
      (fun es => ∃ texture fs, Filmed r ticks .initial es texture fs)
      fun _ es => ∃ texture fs, Filmed r ticks .initial es texture fs := by
    refine (ends_request before _ (R := fun _ => False)).bind (fun _ _ h => h.elim) ?_
    rintro _ _ s hp rfl
    have hbefore : ∀ d ∈ drawCalls (requestEvents before : List (Event α)), d ≠ .clear := by
      rw [drawCalls_requestEvents]
      exact nofun
    have hc : s.control = Control.initial.after (requestEvents before : List (Event α)) :=
      hp.control
    refine (ends_run r ticks s).mono (fun es _ ⟨texture, fs, h⟩ => ?_)
      fun _ es ⟨texture, fs, h⟩ => ?_
    · exact ⟨texture, fs, .prepend hbefore (hc ▸ h)⟩
    · exact ⟨texture, fs, .prepend hbefore (hc ▸ h)⟩
  obtain ⟨es, hp, hr⟩ := hends
  have htrace : (r.life before ticks display).2.trace.toList = es := hp.trace
  rw [htrace]
  split at hr
  · exact hr
  · exact hr.2

end
end FireflyOverlay
