import FireflyOverlay.Proofs.Canvas.Guest
import FireflyOverlay.Proofs.Drawing.Sampling
import FireflyOverlay.Proofs.Renderer.FirstCrash
import FireflyOverlay.Proofs.Renderer.Termination

/-!
# Runs on canvases that crash

On a canvas that checks its draws a run goes as on any other canvas, up to the first draw that
crashes.  A renderer draws only while it is a guest, so such a draw is on a surface of its own.

* `Checks view faulty`   a display that is the canvas `view d`, except for the draws that crash;
* `Canvas.Hosts`       the display has a guest, as in all frames (`Checks.stays_frames`);
* `Checks.visit_life`, `Checks.broken_life`   runs that return, and runs that a crash breaks off;
* `Window.RoundedUp`   the sizes for which a draw may leave its image;
* `visitLaws`          what a run leaves behind, where it is broken off, and where it returns;
* `crash_wideRenderer`   a run that does not return.
-/

namespace FireflyOverlay

variable {α σ : Type}

/-! ## canvases with checks -/

/-- The display `d` is the canvas `view d`, except that the draws that are faulty crash. -/
structure Checks [Scalar α] [Root α] [Display α σ] (view : σ → Canvas α)
    (faulty : Canvas α → Call α → Bool) : Prop where
  draws : ∀ s c, faulty s c = true → c.isDraw = true
  crashes : ∀ d c, faulty (view d) c = true → (Display.step c d).1.reply = none
  steps : ∀ d c, faulty (view d) c = false →
    (Display.step c d).1 = (Canvas.step c (view d)).1 ∧
      view (Display.step c d).2 = (Canvas.step c (view d)).2

namespace Canvas

/-- The canvas behind the display has a guest, in a window with pixels. -/
structure Hosts [Scalar α] (view : σ → Canvas α) (s₀ : Canvas α) (w : WindowId) (v : Window)
    (d : σ) : Prop where
  pixels : ¬ (v.front.width = 0 ∨ v.front.height = 0)
  guest : ∃ k, Guest s₀ w v k (view d)

end Canvas

namespace Checks

open Canvas Play

variable [Scalar α] [Root α] [Display α σ] {view : σ → Canvas α}
  {faulty : Canvas α → Call α → Bool} {d d' : σ} {c : Call α}
  {s₀ : Canvas α} {w : WindowId} {v : Window}

theorem faulty_of_crash (h : Checks view faulty) (hc : (Display.step c d).1.reply = none) :
    faulty (view d) c = true := by
  by_contra hno
  have hsome := Canvas.reply_isSome c (view d)
  rw [← (h.steps d c (Bool.eq_false_of_not_eq_true hno)).1, hc] at hsome
  cases hsome

theorem step_of_reply (h : Checks view faulty) {reply : c.Reply}
    (hc : (Display.step c d).1.reply = some reply) :
    (Display.step c d).1 = (Canvas.step c (view d)).1 ∧
      view (Display.step c d).2 = (Canvas.step c (view d)).2 := by
  refine h.steps d c (Bool.eq_false_of_not_eq_true fun hf => ?_)
  rw [h.crashes d c hf] at hc
  cases hc

theorem reply_isSome_of_noDraw (h : Checks view faulty) (hc : c.isDraw = false) (d : σ) :
    (Display.step c d).1.reply.isSome = true := by
  cases hr : (Display.step c d).1.reply with
  | some _ => rfl
  | none => exact Bool.noConfusion (hc.symm.trans (h.draws _ c (h.faulty_of_crash hr)))

/-- What the display answers, the canvas behind it answers. -/
theorem replays (h : Checks view faulty) {xs : List (Exchange α)} (hr : Replays d xs d') :
    Replays (view d) xs (view d') := by
  induction xs generalizing d with
  | nil => exact congrArg view hr
  | cons x xs ih =>
    obtain ⟨hx, hxs⟩ := hr
    obtain ⟨hreaction, hview⟩ := h.step_of_reply hx
    have hrest := ih hxs
    rw [hview] at hrest
    exact ⟨(congrArg Reaction.reply hreaction).symm.trans hx, hrest⟩

/-! ### runs -/

theorem calm_ensureCurrent (h : Checks view faulty) :
    (ensureCurrent : Play α σ (Except DisplayError Unit)).Calm :=
  closed_ensureCurrent closed_calm fun _ hc => h.reply_isSome_of_noDraw (Call.isDraw_of_isUse hc)

theorem calm_present (h : Checks view faulty) :
    (present : Play α σ (Except DisplayError Unit)).Calm :=
  closed_present closed_calm fun _ hc => h.reply_isSome_of_noDraw (Call.isDraw_of_isUse hc)

theorem calm_acquire (h : Checks view faulty) (w : WindowId) :
    (acquire w : Play α σ (Except DisplayError Unit)).Calm :=
  closed_acquire closed_calm (fun _ hc => h.reply_isSome_of_noDraw hc) calm_holdLease w

theorem calm_release (h : Checks view faulty) : (release : Play α σ Unit).Calm :=
  closed_release closed_calm
    (fun _ hc => h.reply_isSome_of_noDraw (Call.isDraw_of_isRelease hc)) calm_holdLease

theorem hosts_draw (h : Checks view faulty) (hi : s₀.Issued) (c : DrawCall α) (d : σ) (v' : c.Reply)
    (hd : Hosts view s₀ w v d) (hr : (Display.step (.draw c) d).1.reply = some v') :
    Hosts view s₀ w v (Display.step (.draw c) d).2 := by
  obtain ⟨k, hg⟩ := hd.guest
  refine ⟨hd.pixels, k, ?_⟩
  rw [(h.step_of_reply hr).2]
  exact hg.draw hi c

/-- A guest arrives before anything is drawn. -/
theorem stays_prepare (h : Checks view faulty) (r : Renderer α) (s : Session α σ)
    (hi : (view s.display).Issued) (hw : (view s.display).windows[r.window]? = some v)
    (hl : s.lease = .empty) :
    (r.prepare : Play α σ (Except DisplayError (Scene α))).Stays
      (Hosts view (view s.display) r.window v) s fun result s' => ∀ scene, result = .ok scene →
        Hosts view (view s.display) r.window v s'.display ∧
          s'.lease.bound? = some (displayId, (view s.display).nextHandles.binding) := by
  rw [r.prepare_eq]
  refine ((h.calm_acquire _).stays (returns_acquire r.window s) _).bind fun result s₁ h₁ => ?_
  obtain ⟨es, hr, ha⟩ := h₁
  rw [hl] at ha
  cases result with
  | error _ => exact .pure nofun
  | ok _ =>
    generalize exchanges es = xs at hr ha
    generalize hl₁ : s₁.lease = l at ha
    obtain ⟨handles⟩ := ha
    obtain ⟨hv, rfl, hg⟩ := guest_of_steps hi hw (h.replays hr)
    have hdraw := closed_furnish (closed_stays (Hosts view (view s.display) r.window v))
      (fun c _ => h.hosts_draw hi c) r s₁ ⟨hv, 0, hg⟩
    refine hdraw.mono fun _ s' hs' scene _ => ⟨hs'.1, ?_⟩
    rw [hs'.2, hl₁]
    rfl

variable [Trig α]

/-- While there are frames, there is a guest. -/
theorem stays_frames (h : Checks view faulty) (hi : s₀.Issued) (ticks : List Tick)
    (scene : Scene α) (s : Session α σ)
    (hl : s.lease.bound? = some (displayId, s₀.nextHandles.binding))
    (hs : Hosts view s₀ w v s.display) :
    (frames ticks scene).Stays (Hosts view s₀ w v) s fun _ _ => True := by
  induction ticks generalizing scene s with
  | nil => exact ((calm_request _).stays (returns_request _ s) _).bind fun _ _ _ => .pure trivial
  | cons t ticks ih =>
    refine ((calm_request _).stays (returns_request t.requests s) _).bind fun _ s₁ h₁ => .get ?_
    obtain ⟨es₁, hr₁, rfl, hl₁⟩ := h₁
    rw [exchanges_requestEvents] at hr₁
    cases s₁.control.requests.stop with
    | true => exact .pure trivial
    | false =>
      refine (h.calm_ensureCurrent.stays (returns_ensureCurrent s₁) _).bind fun r s₂ h₂ => ?_
      rw [hl₁, hl, show s₁.display = s.display from hr₁] at h₂
      obtain ⟨es₂, hr₂, hl₂, -, he⟩ := h₂
      obtain ⟨k, hg⟩ := hs.guest
      obtain ⟨rfl, hview⟩ := hg.ensured he (h.replays hr₂)
      have hs₂ : Hosts view s₀ w v s₂.display := ⟨hs.pixels, k, hview ▸ hg⟩
      have hframe := closed_drawFrame (closed_stays (Hosts view s₀ w v)) (h.hosts_draw hi) scene
        t.elapsed s₂ hs₂
      refine hframe.bind fun scene' s₃ h₃ => ?_
      obtain ⟨hs₃, hl₃⟩ := h₃
      refine (h.calm_present.stays (returns_present s₃) _).bind fun r s₄ h₄ => ?_
      rw [hl₃, hl₂, hl] at h₄
      obtain ⟨es₄, hr₄, hl₄, hp⟩ := h₄
      obtain ⟨k', hg'⟩ := hs₃.guest
      obtain ⟨rfl, hg₄⟩ := hg'.presented hi hp (h.replays hr₄)
      exact ih scene' s₄ (by rw [hl₄, hl]) ⟨hs.pixels, _, hg₄⟩

theorem stays_climb (h : Checks view faulty) (r : Renderer α) (before : Requests)
    (ticks : List Tick) (d : σ) (hi : (view d).Issued)
    (hw : (view d).windows[r.window]? = some v) :
    (r.climb before ticks).Stays (Hosts view (view d) r.window v) (.ofDisplay d)
      fun _ _ => True := by
  refine ((calm_request before).stays (returns_request before _) _).bind fun _ s₁ h₁ => ?_
  obtain ⟨_, hr₁, rfl, hl₁⟩ := h₁
  rw [exchanges_requestEvents] at hr₁
  have hwork : (r.work ticks).Stays (Hosts view (view d) r.window v) s₁ fun _ _ => True := by
    refine ((calm_reach .preparing nofun).stays (returns_reach _ s₁) _).bind fun _ s₂ h₂ => ?_
    obtain ⟨_, hr₂, hes₂, hl₂⟩ := h₂
    rw [hes₂] at hr₂
    have hd : s₂.display = d := hr₂.trans hr₁
    have hprepare := h.stays_prepare r s₂ (hd ▸ hi) (hd ▸ hw) (hl₂.trans hl₁)
    rw [hd] at hprepare
    refine hprepare.bind fun result s₃ h₃ => ?_
    cases result with
    | error _ => exact .pure trivial
    | ok scene =>
      obtain ⟨hs₃, hl₃⟩ := h₃ scene rfl
      refine ((calm_reach .running nofun).stays (returns_reach _ s₃) _).bind fun _ s₄ h₄ => ?_
      obtain ⟨_, hr₄, hes₄, hl₄⟩ := h₄
      rw [hes₄] at hr₄
      exact h.stays_frames hi ticks scene s₄ (hl₄ ▸ hl₃) ((show s₄.display = _ from hr₄) ▸ hs₃)
  refine hwork.bind fun exit s₂ _ => ?_
  refine ((calm_reach .draining nofun).stays (returns_reach _ s₂) _).bind fun _ s₃ _ => ?_
  exact (h.calm_release.stays (returns_release s₃) _).bind fun _ _ _ => .pure trivial

variable {r : Renderer α} {before : Requests} {ticks : List Tick}

/-- A run that returns is a visit. -/
theorem visit_life (h : Checks view faulty) (hi : (view d).Issued)
    (hw : (view d).windows[r.window]? = some v) {exit : Exit}
    (he : (r.life before ticks d).1 = .ok exit) :
    Visit (view d) r.window v exit (exchanges (r.life before ticks d).2.trace.toList)
      (view (r.life before ticks d).2.display) := by
  have hn : ¬ Crashed (r.life before ticks d).2.trace.toList := by
    rcases hm : (r.climb before ticks).outcome (.ofDisplay d) with ⟨cause | exit', s⟩
    · obtain ⟨_, _, _, _, hc, -⟩ := brokenOff_life r hm
      cases he.symm.trans hc
    · obtain ⟨up, down, -, ht, hret⟩ := returned_life r hm
      exact ht ▸ hret.calm
  have hr := h.replays ((life_answers r before ticks d).replays hn)
  rcases life_cases r before ticks d with hc | ⟨exit', es, he', ht, hrun⟩
  · exact absurd hc hn
  · cases he.symm.trans he'
    rw [ht, exchanges_requested] at hr ⊢
    exact visit_of_runTrace hrun hi hw hr

/-- A crash breaks a run off while it draws as a guest. -/
theorem broken_life (h : Checks view faulty) (hi : (view d).Issued)
    (hw : (view d).windows[r.window]? = some v) {cause : Crash}
    (he : (r.life before ticks d).1 = .error cause) :
    BreaksIn (Hosts view (view d) r.window v) d (r.life before ticks d).2.trace.toList := by
  obtain ⟨es, hp, hes⟩ := h.stays_climb r before ticks d hi hw
  rcases hm : (r.climb before ticks).outcome (.ofDisplay d) with ⟨cause' | exit, s⟩
  · rw [hm] at hp hes
    have hdown : (bail cause' : Play α σ Exit).Leads s fun _ _ _ => True :=
      (leads_reach _ s).bind (fun _ _ _ _ => trivial) fun _ _ s' _ =>
        (leads_release s').bind (fun _ _ _ _ => trivial) fun _ _ _ _ => .throw trivial
    obtain ⟨fs, hp', -⟩ := hdown
    have htrace : (r.life before ticks d).2.trace.toList = es ++ fs := by
      rw [r.life_eq, hm]
      exact hp'.trace.trans (congrArg (· ++ fs) hp.trace)
    rw [htrace]
    exact hes.append fs
  · obtain ⟨_, _, he', -⟩ := returned_life r hm
    cases he.symm.trans he'

end Checks

/-! ## draws that crash -/

namespace Canvas

/-- The next draw is on an image of the size of the window. -/
theorem Guest.target [Scalar α] {s₀ s : Canvas α} {w : WindowId} {v : Window} {k : Nat}
    (h : Guest s₀ w v k s) (hi : s₀.Issued) :
    ∃ state m, s.target? = some (state, m) ∧ m.SameSize v.front := by
  obtain ⟨state, hc⟩ := h.find_context hi
  obtain ⟨back, hs, hb⟩ := h.find_surface hi
  have hcurrent : s.currentState? = some (s₀.nextHandles.binding, state) :=
    currentState?_eq_some.mpr ⟨h.current, hc⟩
  refine ⟨state, back, ?_, hb⟩
  unfold target?
  rw [hcurrent]
  show Option.map _ (s.surfaces.find? s₀.nextHandles.surface) = _
  rw [hs]
  rfl

theorem overcounts_draw [Scalar α] [Root α] (s : Canvas α) (c : DrawCall α) :
    s.overcounts (.draw c) = s.target?.any fun (state, m) => state.overcounts c m :=
  s.any_target fun state m => state.overcounts c m

end Canvas

open Canvas

theorem checks_checkedCanvas :
    Checks (fun d : CheckedCanvas Float32 => d.canvas) Canvas.overruns where
  draws _ c h := by
    obtain ⟨d, _, _, rfl, -⟩ := exists_draw_of_overruns h
    rfl
  crashes _ _ h := Canvas.crash_iff.mpr h
  steps _ _ h := by
    have hstep := CheckedCanvas.step_eq h
    exact ⟨congrArg Prod.fst hstep, congrArg (·.2.canvas) hstep⟩

theorem checks_strictCanvas : Checks (fun d : StrictCanvas Float32 => d.checked.canvas)
    fun s c => s.overcounts c || s.overruns c where
  draws _ c h := by
    cases c with
    | draw _ => rfl
    | _ => cases h
  crashes _ _ h := StrictCanvas.crash_iff.mpr (Bool.or_eq_true_iff.mp h)
  steps _ _ h := by
    obtain ⟨hcount, hrun⟩ := Bool.or_eq_false_iff.mp h
    have hstep := StrictCanvas.step_eq hcount hrun
    exact ⟨congrArg Prod.fst hstep, congrArg (·.2.checked.canvas) hstep⟩

/-! ### runs that they break off -/

/-- As floats, the columns or the rows are more. -/
def Window.RoundedUp (v : Window) : Prop :=
  v.front.width < Single.readBack v.front.width ∨ v.front.height < Single.readBack v.front.height

instance (v : Window) : Decidable v.RoundedUp := inferInstanceAs (Decidable (_ ∨ _))

theorem roundedUp_of_overruns {v : Window} (hv : v.front.width < 2 ^ 32 ∧ v.front.height < 2 ^ 32)
    {state : ContextState Float32} {c : DrawCall Float32} {m : Image} (hm : m.SameSize v.front)
    (h : state.overruns c m = true) : v.RoundedUp := by
  obtain ⟨hwidth, hheight⟩ := hm
  by_contra hno
  obtain ⟨hcolumns, hrows⟩ := not_or.mp hno
  rw [state.overruns_of_readBack_le c (by omega) (by rw [hwidth, hheight]; omega)] at h
  cases h

/-- The first call of `es` that crashes is a draw as in `P`, on an image of the window's size. -/
def BreaksDrawing (s : Canvas Float32) (v : Window)
    (P : ContextState Float32 → DrawCall Float32 → Image → Prop) (es : List (Event Float32)) :
    Prop :=
  ∃ pre c later s' state m, es = pre ++ .call (.draw c) none :: later ∧ ¬ Crashed pre ∧
    Replays s (exchanges pre) s' ∧ s'.target? = some (state, m) ∧ m.SameSize v.front ∧ P state c m

/-- Runs in the window `v`, on a display that is the canvas `view d` but for draws as in `P`. -/
structure Visits [Display Float32 σ] (view : σ → Canvas Float32)
    (P : ContextState Float32 → DrawCall Float32 → Image → Prop) (r : Renderer Float32) (v : Window)
    (d : σ) : Prop where
  /-- a run that returns is a visit, -/
  returned : ∀ before ticks exit, (r.life before ticks d).1 = .ok exit →
    Visit (view d) r.window v exit (exchanges (r.life before ticks d).2.trace.toList)
      (view (r.life before ticks d).2.display)
  /-- one that does not return is broken off by such a draw, -/
  broken : ∀ before ticks cause, (r.life before ticks d).1 = .error cause →
    BreaksDrawing (view d) v P (r.life before ticks d).2.trace.toList
  /-- and in a window without pixels it returns -/
  empty : v.front.width = 0 ∨ v.front.height = 0 → ∀ before ticks,
    (r.life before ticks d).1 = .ok (.initFailed (.createSurfaceFailed .badNativeWindow))

theorem Checks.visits [Display Float32 σ] {view : σ → Canvas Float32}
    {faulty : Canvas Float32 → Call Float32 → Bool} (h : Checks view faulty)
    {r : Renderer Float32} {d : σ} {v : Window} (hs : (view d).Reachable)
    (hw : (view d).windows[r.window]? = some v)
    {P : ContextState Float32 → DrawCall Float32 → Image → Prop}
    (hP : ∀ s c state m, faulty s (.draw c) = true → s.target? = some (state, m) →
      m.SameSize v.front → P state c m) : Visits view P r v d where
  returned _ _ _ he := h.visit_life hs.issued hw he
  broken _ _ _ he := by
    obtain ⟨pre, call, later, d', htrace, hpre, hr, hd', hc⟩ := h.broken_life hs.issued hw he
    have hfaulty := h.faulty_of_crash hc
    obtain ⟨_, hg⟩ := hd'.guest
    obtain ⟨state, m, ht, hm⟩ := hg.target hs.issued
    cases call with
    | draw c =>
      exact ⟨pre, c, later, _, state, m, htrace, hpre, h.replays hr, ht, hm,
        hP _ c state m hfaulty ht hm⟩
    | _ => exact Bool.noConfusion (h.draws _ _ hfaulty)
  empty hv before ticks := by
    cases he : (r.life before ticks d).1 with
    | ok exit => rw [(h.visit_life hs.issued hw he).failed.mpr hv]
    | error cause =>
      obtain ⟨_, _, _, _, -, -, -, hd', -⟩ := h.broken_life hs.issued hw he
      exact absurd hv hd'.pixels

/-! ## the laws -/

/-- A draw reaches for a pixel outside of its image, and the size is one that is rounded up. -/
def LeavesImage (v : Window) (state : ContextState Float32) (c : DrawCall Float32) (m : Image) :
    Prop := state.overruns c m = true ∧ v.RoundedUp

/-- Runs of the renderer `r` on the canvas `s`, in its window `v`. -/
structure VisitLaws (r : Renderer Float32) (s : Canvas Float32) (v : Window) : Prop where
  /-- where texel indices and pixels are checked, -/
  strict : Visits (fun d : StrictCanvas Float32 => d.checked.canvas)
    (fun state c m => state.overcounts c m = true ∨ LeavesImage v state c m) r v ⟨⟨s⟩⟩
  /-- and where only the pixels are. -/
  checked : Visits (fun d : CheckedCanvas Float32 => d.canvas) (LeavesImage v) r v ⟨s⟩
  /-- Then a run in a window whose size is not rounded up returns. -/
  within : ¬ v.RoundedUp → ∀ before ticks,
    ∃ exit, (r.life before ticks (⟨s⟩ : CheckedCanvas Float32)).1 = .ok exit

theorem visitLaws {r : Renderer Float32} {s : Canvas Float32} {v : Window} (hs : s.Reachable)
    (hw : s.windows[r.window]? = some v)
    (hv : v.front.width < 2 ^ 32 ∧ v.front.height < 2 ^ 32) : VisitLaws r s v := by
  have hchecked : Visits (fun d : CheckedCanvas Float32 => d.canvas) (LeavesImage v) r v ⟨s⟩ := by
    refine checks_checkedCanvas.visits hs hw fun t c state m hf ht hm => ?_
    rw [overruns_draw, ht] at hf
    exact ⟨hf, roundedUp_of_overruns hv hm hf⟩
  refine ⟨checks_strictCanvas.visits hs hw fun t c state m hf ht hm => ?_, hchecked, ?_⟩
  · rw [overcounts_draw, overruns_draw, ht] at hf
    exact (Bool.or_eq_true_iff.mp hf).imp_right fun h => ⟨h, roundedUp_of_overruns hv hm h⟩
  · intro hno before ticks
    cases he : (r.life before ticks (⟨s⟩ : CheckedCanvas Float32)).1 with
    | ok exit => exact ⟨exit, rfl⟩
    | error cause =>
      obtain ⟨_, _, _, _, _, _, -, -, -, -, -, -, hrounded⟩ := hchecked.broken before ticks cause he
      exact absurd hrounded hno

/-- A renderer without a sprite, on the first window. -/
def plainRenderer : Renderer Float32 where
  settings := .ofSurface ⟨64, 48, by decide, by decide⟩
  window := 0
  decoder := Png.decoder
  assets name := .error (.notFound name)
  units := .ofFn fun _ => Scalar.ofNat 0

theorem visitLaws_sizes :
    (plainRenderer.life .none [⟨16, .none⟩]
        (CheckedCanvas.initial.addWindow 64 48 : CheckedCanvas Float32)).1 = .ok .stopped ∧
      (plainRenderer.life .none [⟨16, .none⟩]
        (StrictCanvas.initial.addWindow 0 48 : StrictCanvas Float32)).1 =
          .ok (.initFailed (.createSurfaceFailed .badNativeWindow)) := by
  constructor
  · have hlaws : VisitLaws plainRenderer (Canvas.initial.addWindow 64 48) (.ofSize 64 48) :=
      visitLaws (.window 64 48 .initial) rfl (by decide)
    obtain ⟨exit, he⟩ := hlaws.within (by decide) .none [⟨16, .none⟩]
    have hstopped := (hlaws.checked.returned _ _ exit he).stopped.mpr (by decide)
    exact he.trans (congrArg _ hstopped)
  · have hlaws : VisitLaws plainRenderer (Canvas.initial.addWindow 0 48) (.ofSize 0 48) :=
      visitLaws (.window 0 48 .initial) rfl (by decide)
    exact hlaws.strict.empty (by decide) _ _

/-- Fireflies at the right end of a surface of 16777219 columns and one row. -/
def wideRenderer : Renderer Float32 where
  settings := .ofSurface ⟨16777219, 1, by decide, by decide⟩
  window := 0
  decoder := Png.decoder
  assets name := .error (.notFound name)
  units := .ofFn fun n => if n % 2 = 0 then .ofBits 0x3f7fffff else Scalar.ofNat 0

/-- In its first frame the run draws a firefly that reaches for the column after the last one, so it
does not return. -/
theorem crash_wideRenderer :
    (wideRenderer.life .none [⟨0, ⟨false, true⟩⟩]
      (CheckedCanvas.initial.addWindow 16777219 1 : CheckedCanvas Float32)).1 = .error .crash := by
  decide +kernel

end FireflyOverlay
