import FireflyOverlay.Proofs.Lease.Exchanges
import FireflyOverlay.Renderer

/-!
# The trace of a run

What a renderer does from its first call to its last, as a grammar of traces.

* `Prepared`    the draw calls between the acquisition and the first frame;
* `Drawn`       a frame up to its swap: the binding is made sure of, the frame is set up, and then
                the whole population is drawn as it is after its update;
* `Loop`        the frame loop: frames, and how it ends.  `seen` are the stop flags that its tests
                found, one for each test;
* `WorkTrace`   either an acquisition that fails, or one that succeeds, the preparation and the
                loop; with the lease that is left in the end;
* `RunTrace`    a run: the work and then the release of that lease (`returns_run`);
* `Renderer.life`   a run from a fresh session on.  Either a call crashes, or the run returns and
                its trace is a `RunTrace` (`life_cases`); the display answers it (`life_answers`).

The fade-out flag that a frame goes by is the one of the control after all events before the first
firefly is drawn.
-/

namespace FireflyOverlay

variable {α σ : Type} [Scalar α]

/-! ## preparing -/

def spriteDraws (decoder : ImageDecoder) (assets : AssetStore) (name : String) :
    List (DrawCall α) :=
  match readImage decoder assets name with
  | .error _ => []
  | .ok image => uploadSprite image

def Prepared (r : Renderer α) (texture : TextureId) (xs : List (Exchange α)) : Prop :=
  ∃ rest, xs = [⟨.draw (.setClearColor .opaqueBlack), ()⟩, ⟨.draw .generateTexture, texture⟩,
      ⟨.draw (.bindTexture texture), ()⟩] ++ rest ∧
    rest.map Exchange.call = (spriteDraws r.decoder r.assets r.settings.sprite ++
      Renderer.screenSetup r.settings.surface).map Call.draw

theorem Prepared.allDraws {r : Renderer α} {texture : TextureId} {es : List (Event α)}
    (h : Prepared r texture (exchanges es)) : AllDraws (exchanges es) := by
  obtain ⟨rest, he, hr⟩ := h
  rw [he]
  refine .append (fun x hx => ?_) (allDraws_of_map hr)
  simp only [List.mem_cons, List.not_mem_nil, or_false] at hx
  rcases hx with rfl | rfl | rfl <;> rfl

def Renderer.scene (r : Renderer α) (texture : TextureId) : Scene α :=
  let (swarm, units) := populate r.settings.surface r.units
  ⟨texture, swarm, units⟩

theorem Renderer.length_scene (r : Renderer α) (texture : TextureId) :
    (r.scene texture).swarm.fireflies.length = population := by
  show ((Swarm.random r.settings.surface r.units).1.reset _).1.fireflies.length = population
  rw [Swarm.length_reset, Swarm.length_random]

/-! ## frames -/

variable [Trig α]

/-- The scene once every firefly is updated. -/
def Scene.after (s : Scene α) (elapsed : Nat) (fading : Bool) : Scene α :=
  let (swarm, units) := s.swarm.advance elapsed fading s.units
  { s with swarm, units }

theorem Scene.length_after (s : Scene α) (elapsed : Nat) (fading : Bool) :
    (s.after elapsed fading).swarm.fireflies.length = s.swarm.fireflies.length :=
  s.swarm.length_advance elapsed fading s.units

structure Drawn (d : DisplayId) (b : Binding) (elapsed : Nat) (c : Control) (scene scene' : Scene α)
    (ready setup lights : List (Event α)) : Prop where
  asked : StartsWith .currentContext ready
  ensured : Ensured d b (exchanges ready) (.ok ())
  cleared : Draws (frameSetup scene.texture) setup
  updated : scene' = scene.after elapsed (c.after (ready ++ setup)).requests.fadeOut
  crowd : scene'.swarm.fireflies.length = population
  drawn : Draws scene'.swarm.draws lights

/-- The events of a frame from the requests before its test to its swap. -/
def frameEvents (r : Requests) (ready setup lights shown : List (Event α)) : List (Event α) :=
  requestEvents r ++ (ready ++ setup ++ lights ++ shown)

inductive Loop (d : DisplayId) (b : Binding) :
    List Tick → Control → Scene α → List Bool → List (Event α) → Exit → Prop
  | finished {c scene} : Loop d b [] c scene [true] (requestEvents .stopNow) .stopped
  | stopped {t ticks c scene} (h : (c.request t.requests).requests.stop = true) :
    Loop d b (t :: ticks) c scene [true] (requestEvents t.requests) .stopped
  | lost {t ticks c scene ready e} (h : (c.request t.requests).requests.stop = false)
    (ha : StartsWith .currentContext ready) (hr : Ensured d b (exchanges ready) (.error e)) :
    Loop d b (t :: ticks) c scene [false] (requestEvents t.requests ++ ready) (.contextLost e)
  | unpresented {t ticks c scene scene' ready setup lights shown e}
    (h : (c.request t.requests).requests.stop = false)
    (hd : Drawn d b t.elapsed (c.request t.requests) scene scene' ready setup lights)
    (hp : Presented d b.surface (exchanges shown) (.error e)) :
    Loop d b (t :: ticks) c scene [false] (frameEvents t.requests ready setup lights shown)
      (.presentFailed e)
  | frame {t ticks c scene scene' ready setup lights shown seen es exit}
    (h : (c.request t.requests).requests.stop = false)
    (hd : Drawn d b t.elapsed (c.request t.requests) scene scene' ready setup lights)
    (hp : Presented d b.surface (exchanges shown) (.ok ()))
    (rest : Loop d b ticks (c.after (frameEvents t.requests ready setup lights shown)) scene' seen
      es exit) :
    Loop d b (t :: ticks) c scene (false :: seen)
      (frameEvents t.requests ready setup lights shown ++ es) exit

/-! ## runs -/

inductive WorkTrace (r : Renderer α) (ticks : List Tick) (c : Control) (l : Lease) :
    List (Event α) → Exit → Lease → Prop
  | refused {es e l'} (ha : Acquisition r.window l (exchanges es) (.error e) l') :
    WorkTrace r ticks c l es (.initFailed e) l'
  | ran {acq prep loop exit} (h : Handles) (texture : TextureId) (seen : List Bool)
    (ha : exchanges acq = h.steps r.window) (hp : Prepared r texture (exchanges prep))
    (hl : Loop h.display h.binding ticks (c.after (acq ++ prep)) (r.scene texture) seen loop exit) :
    WorkTrace r ticks c l (acq ++ prep ++ loop) exit (h.hold 6 l)

def RunTrace (r : Renderer α) (ticks : List Tick) (c : Control) (es : List (Event α))
    (exit : Exit) : Prop :=
  ∃ work down l, es = work ++ down ∧ WorkTrace r ticks c .empty work exit l ∧
    Released l (exchanges down)

/-! ## what the parts of a run return -/

variable [Display α σ]

omit [Scalar α] [Trig α] in
theorem returns_warnOfSize (name : String) (m : Image) (s : Session α σ) :
    (warnOfSize name m).Returns s fun _ es s' => exchanges es = [] ∧ s'.lease = s.lease := by
  unfold warnOfSize
  split
  · exact .pure ⟨rfl, rfl⟩
  · exact returns_log _ _ s

omit [Scalar α] [Trig α] in
theorem returns_loadSprite (decoder : ImageDecoder) (assets : AssetStore) (name : String)
    (s : Session α σ) :
    (loadSprite decoder assets name).Returns s fun texture es s' => s'.lease = s.lease ∧
      ∃ rest, exchanges es = [⟨.draw .generateTexture, texture⟩,
          ⟨.draw (.bindTexture texture), ()⟩] ++ rest ∧
        rest.map Exchange.call = (spriteDraws decoder assets name).map Call.draw := by
  refine (returns_perform (.draw .generateTexture) s).bind fun texture es₁ s₁ h₁ => ?_
  refine (returns_perform (.draw (.bindTexture texture)) s₁).bind fun _ es₂ s₂ h₂ => ?_
  unfold spriteDraws
  cases readImage decoder assets name with
  | error e =>
    refine (returns_log _ _ s₂).bind fun _ es₃ s₃ h₃ => .pure ⟨?_, [], ?_, rfl⟩
    · exact h₃.2.trans (h₂.2.trans h₁.2)
    · simp only [exchanges_append, h₁.1, h₂.1, h₃.1]
      rfl
  | ok image =>
    refine (returns_warnOfSize name image s₂).bind fun _ es₃ s₃ h₃ => ?_
    refine (returns_performAll _ s₃).bind fun _ es₄ s₄ h₄ => .pure ⟨?_, exchanges es₄, ?_, h₄.1⟩
    · exact h₄.2.trans (h₃.2.trans (h₂.2.trans h₁.2))
    · simp only [exchanges_append, h₁.1, h₂.1, h₃.1]
      simp [exchanges]

omit [Trig α] in
theorem returns_prepare (r : Renderer α) (s : Session α σ) :
    r.prepare.Returns s fun result es s' => ∃ acq prep, es = acq ++ prep ∧
      match result with
      | .error e => exchanges prep = [] ∧
          Acquisition r.window s.lease (exchanges acq) (.error e) s'.lease
      | .ok scene => Acquisition r.window s.lease (exchanges acq) (.ok ()) s'.lease ∧
          scene = r.scene scene.texture ∧ Prepared r scene.texture (exchanges prep) := by
  refine (returns_acquire r.window s).bind fun result es₁ s₁ h₁ => ?_
  cases result with
  | error e => exact .pure ⟨es₁, [], rfl, rfl, h₁⟩
  | ok _ =>
    refine (returns_perform (.draw (.setClearColor .opaqueBlack)) s₁).bind fun _ es₂ s₂ h₂ => ?_
    refine (returns_loadSprite _ _ _ s₂).bind fun texture es₃ s₃ h₃ => ?_
    refine (returns_performAll _ s₃).bind fun _ es₄ s₄ h₄ => .pure ?_
    obtain ⟨hl₃, rest, hr, hc⟩ := h₃
    refine ⟨es₁, es₂ ++ (es₃ ++ es₄), by simp, ?_, rfl, rest ++ exchanges es₄, ?_, ?_⟩
    · rw [h₄.2, hl₃, h₂.2]
      exact h₁
    · simp only [exchanges_append, h₂.1, hr]
      rfl
    · rw [List.map_append, hc, h₄.1, List.map_append]

theorem returns_drawFrame (scene : Scene α) (elapsed : Nat) (s : Session α σ) :
    (scene.drawFrame elapsed).Returns s fun scene' es s' => s'.lease = s.lease ∧
      ∃ setup lights, es = setup ++ lights ∧ Draws (frameSetup scene.texture) setup ∧
        scene' = scene.after elapsed (s.control.after setup).requests.fadeOut ∧
        Draws scene'.swarm.draws lights := by
  refine (returns_performAll _ s).plays.bind fun _ setup s₁ h₁ => .get ?_
  refine (returns_performAll _ s₁).bind fun _ lights s₂ h₂ => .pure ?_
  refine ⟨h₂.2.trans h₁.2.2, setup, lights, by simp, h₁.2.1, ?_, h₂.1⟩
  rw [← h₁.1.control]
  rfl

/-- **The trace of the frame loop**, for a lease that holds all it needs. -/
theorem returns_frames (ticks : List Tick) (scene : Scene α) (s : Session α σ) {d : DisplayId}
    {b : Binding} (hl : s.lease.bound? = some (d, b))
    (hn : scene.swarm.fireflies.length = population) :
    (frames ticks scene).Returns s fun exit es s' =>
      s'.lease = s.lease ∧ ∃ seen, Loop d b ticks s.control scene seen es exit := by
  induction ticks generalizing scene s with
  | nil =>
    refine (returns_request _ s).bind fun _ es s' h => .pure ⟨h.2, [true], ?_⟩
    rw [h.1, List.append_nil]
    exact .finished
  | cons t ticks ih =>
    refine (returns_request t.requests s).plays.bind fun _ es₁ s₁ h₁ => .get ?_
    obtain ⟨hp₁, rfl, hl₁⟩ := h₁
    have hc : s₁.control = s.control.request t.requests := by
      rw [hp₁.control, Control.after_requestEvents]
    rw [← hl₁] at hl
    cases hstop : s₁.control.requests.stop with
    | true =>
      refine .pure ⟨hl₁, [true], ?_⟩
      rw [List.append_nil]
      exact .stopped (hc ▸ hstop)
    | false =>
      refine (returns_ensureCurrent s₁).plays.bind fun r ready s₂ h₂ => ?_
      rw [hl] at h₂
      obtain ⟨hp₂, hl₂, ha, he⟩ := h₂
      cases r with
      | error e =>
        refine .pure ⟨hl₂.trans hl₁, [false], ?_⟩
        rw [List.append_nil]
        exact .lost (hc ▸ hstop) ha he
      | ok _ =>
        refine (returns_drawFrame scene t.elapsed s₂).plays.bind fun scene' es₃ s₃ h₃ => ?_
        obtain ⟨hp₃, hl₃, setup, lights, rfl, hset, hsc, hdr⟩ := h₃
        have hn' : scene'.swarm.fireflies.length = population := by
          rw [hsc, Scene.length_after, hn]
        have hd : Drawn d b t.elapsed (s.control.request t.requests) scene scene' ready setup
            lights := by
          refine ⟨ha, he, hset, ?_, hn', hdr⟩
          rw [hsc, hp₂.control, hc, Control.after_append]
        refine (returns_present s₃).plays.bind fun r shown s₄ h₄ => ?_
        rw [hl₃, hl₂, hl] at h₄
        obtain ⟨hp₄, hl₄, hs⟩ := h₄
        cases r with
        | error e =>
          refine .pure ⟨hl₄.trans hl₁, [false], ?_⟩
          have hu : Loop d b (t :: ticks) s.control scene [false] _ _ :=
            .unpresented (hc ▸ hstop) hd hs
          simpa [frameEvents] using hu
        | ok _ =>
          refine (ih scene' s₄ (by rw [hl₄, hl]) hn').mono fun exit es s' _ h => ?_
          obtain ⟨hl₅, seen, hloop⟩ := h
          have hc₄ : s₄.control =
              s.control.after (frameEvents t.requests ready setup lights shown) := by
            rw [hp₄.control, hp₃.control, hp₂.control, hp₁.control]
            simp only [frameEvents, Control.after_append]
          rw [hc₄] at hloop
          refine ⟨hl₅.trans (hl₄.trans hl₁), false :: seen, ?_⟩
          have hf := Loop.frame (hc ▸ hstop) hd hs hloop
          simpa [frameEvents] using hf

theorem returns_work (r : Renderer α) (ticks : List Tick) (s : Session α σ) :
    (r.work ticks).Returns s fun exit es s' =>
      WorkTrace r ticks s.control s.lease es exit s'.lease := by
  refine (returns_reach _ s).plays.bind fun _ es₁ s₁ h₁ => ?_
  refine (returns_prepare r s₁).plays.bind fun result es₂ s₂ h₂ => ?_
  obtain ⟨hp₂, acq, prep, rfl, h₂⟩ := h₂
  rw [h₁.2.2] at h₂
  cases result with
  | error e =>
    refine .pure (.refused ?_)
    simp only [exchanges_append, exchanges_nil, h₁.2.1, h₂.1]
    simpa using h₂.2
  | ok scene =>
    obtain ⟨ha, hscene, hprep⟩ := h₂
    generalize hx : exchanges acq = xs at ha
    generalize hl : s₂.lease = l at ha
    obtain ⟨h⟩ := ha
    refine (returns_reach _ s₂).plays.bind fun _ es₃ s₃ h₃ => ?_
    refine (returns_frames ticks scene s₃ (d := h.display) (b := h.binding) ?_ ?_).mono ?_
    · rw [h₃.2.2, hl]
      rfl
    · rw [hscene]
      exact r.length_scene _
    intro exit loop s₄ _ h₄
    obtain ⟨hl₄, seen, hloop⟩ := h₄
    rw [h₃.1.control, hp₂.control, h₁.1.control, hscene] at hloop
    simp only [← Control.after_append] at hloop
    have hw : WorkTrace r ticks s.control s.lease ((es₁ ++ acq) ++ (prep ++ es₃) ++ loop) exit
        (h.hold 6 s.lease) := by
      refine .ran h scene.texture seen ?_ ?_ (by simpa using hloop)
      · rw [exchanges_append, h₁.2.1, hx, List.nil_append]
      · rw [exchanges_append, h₃.2.1, List.append_nil]
        exact hprep
    rw [hl₄, h₃.2.2, hl]
    simpa using hw

theorem returns_live (r : Renderer α) (ticks : List Tick) (s : Session α σ)
    (hs : s.lease = .empty) :
    (r.live ticks).Returns s fun exit es _ => RunTrace r ticks s.control es exit := by
  refine (returns_work r ticks s).bind fun exit work s₁ h₁ => ?_
  refine (returns_reach _ s₁).bind fun _ es₂ s₂ h₂ => ?_
  refine (returns_release s₂).bind fun _ es₃ s₃ h₃ => ?_
  refine (returns_reach _ s₃).bind fun _ es₄ s₄ h₄ => ?_
  refine (returns_log _ _ s₄).bind fun _ es₅ s₅ h₅ => ?_
  refine (returns_release s₅).bind fun _ es₆ s₆ h₆ => .pure ?_
  rw [hs] at h₁
  refine ⟨work, es₂ ++ es₃ ++ es₄ ++ es₅ ++ es₆, s₁.lease, by simp, h₁, ?_⟩
  have hl : s₅.lease = s₁.lease.released := by rw [h₅.2, h₄.2, h₃.2, h₂.2]
  rw [hl] at h₆
  rw [h₂.2] at h₃
  simp only [exchanges_append, h₂.1, h₄.1, h₅.1, h₆.1.eq_nil, List.nil_append, List.append_nil]
  exact h₃.1

/-- **The trace of a run.** -/
theorem returns_run (r : Renderer α) (ticks : List Tick) (s : Session α σ)
    (hs : s.lease = .empty) :
    (r.run ticks).Returns s fun exit es _ => RunTrace r ticks s.control es exit := by
  have hl : (r.live ticks).Returns s _ := returns_live r ticks s hs
  refine .tryCatch hl fun cause s' => ?_
  have hr : (do reach .terminated; release : Play α σ Unit).Returns s' fun _ _ _ => True :=
    (returns_reach _ s').bind fun _ _ s'' _ => (returns_release s'').mono fun _ _ _ _ _ => trivial
  exact hr.andThrow cause

/-! ## from a fresh session -/

/-- The requests `before` were made before the renderer started. -/
def Renderer.life (r : Renderer α) (before : Requests) (ticks : List Tick) (display : σ) :
    Except Crash Exit × Session α σ :=
  Play.outcome (do request before; r.run ticks) (.ofDisplay display)

theorem returns_life (r : Renderer α) (before : Requests) (ticks : List Tick) (display : σ) :
    Play.Returns (do request before; r.run ticks) (.ofDisplay display) fun exit es _ =>
      ∃ fs, es = requestEvents before ++ fs ∧
        RunTrace r ticks (Control.initial.request before) fs exit := by
  refine (returns_request before _).plays.bind fun _ es s h => ?_
  obtain ⟨hp, rfl, hl⟩ := h
  have hc : s.control = Control.initial.request before := by
    rw [hp.control, Control.after_requestEvents]
    rfl
  rw [← hc]
  exact (returns_run r ticks s hl).mono fun exit fs s' _ h => ⟨fs, rfl, h⟩

theorem life_cases (r : Renderer α) (before : Requests) (ticks : List Tick) (display : σ) :
    Crashed (r.life before ticks display).2.trace.toList ∨
      ∃ exit es, (r.life before ticks display).1 = .ok exit ∧
        (r.life before ticks display).2.trace.toList = requestEvents before ++ es ∧
        RunTrace r ticks (Control.initial.request before) es exit := by
  rcases (returns_life r before ticks display).of_empty rfl with h | ⟨exit, he, es, ht, hr⟩
  · exact .inl h
  · exact .inr ⟨exit, es, he, ht, hr⟩

theorem life_answers (r : Renderer α) (before : Requests) (ticks : List Tick) (display : σ) :
    Answers display (r.life before ticks display).2.trace.toList
      (r.life before ticks display).2.display := (returns_life r before ticks display).answers rfl

end FireflyOverlay
