import FireflyOverlay.Png
import FireflyOverlay.Proofs.Renderer.Crashes
import FireflyOverlay.Scalar.Single

/-!
# Terminated, and released

At its end a run publishes that it is terminated.  Where no call crashes, it has released its
handles by then.  After a crash it counts as terminated first, and releases what it holds after
that.

* `Renderer.climb`     the run up to where it counts as terminated (`leads_climb`);
* `finish`, `bail`     what follows, without and after a crash (`Renderer.life_eq`);
* `Returned`, `BrokenOff`   the parts of a run that returns, and of one that a crash breaks off
                       (`returned_life`, `brokenOff_life`);
* `ReleasedInTime`     whoever reads that the run is terminated finds nothing of it live;
* `TerminationLaws`    so it is where the run returns.  In general it is so exactly where no call
                       crashes while a handle is live;
* `terminationLaws`    the laws hold of every run on a display that grants ends;
* `not_releasedInTime_crashingLife`   a run that a crash breaks off with both a context and a
                       surface live.
-/

namespace FireflyOverlay

variable {α σ : Type}

/-! ## the way down -/

/-- The events by which a run is published as terminated. -/
def ending (record : LogRecord) : List (Event α) := [.log record, .state .terminated]

theorem dealsAs_ending (record : LogRecord) : DealsAs (ending record : List (Event α)) [] :=
  fun kind => by cases kind <;> rfl

theorem not_crashed_ending (record : LogRecord) : ¬ Crashed (ending record : List (Event α)) := by
  simp [Crashed, ending]

section
variable [Display α σ]
open Play

/-- The end of a run that no crash has cut short. -/
def finish (exit : Exit) : Play α σ Exit := do
  reach .terminated
  log .info ("Render thread finished: " ++ exit.text)
  release
  return exit

/-- The end of a run after a crash. -/
def bail (cause : Crash) : Play α σ Exit := do
  reach .terminated
  release
  throw cause

/-- Without a display nothing is left to release. -/
theorem leads_finish (exit : Exit) {s : Session α σ} (hs : s.lease.display = none) :
    (finish exit).Leads s fun result es _ => result = .ok exit ∧ DealsAs es [] ∧ ¬ Crashed es := by
  refine ((leads_reach .terminated s).and (keeps_reach _ s)).bind
    (fun _ _ _ h => by cases h.1.1) fun _ es₁ s₁ h₁ => ?_
  refine ((leads_log _ _ s₁).and (keeps_log _ _ s₁)).bind
    (fun _ _ _ h => by cases h.1.1) fun _ es₂ s₂ h₂ => ?_
  obtain ⟨⟨-, hl₁, -, hes₁⟩, -, hd₁⟩ := h₁
  obtain ⟨⟨-, hes₂, -, hl₂⟩, -, hd₂⟩ := h₂
  have hcalm₁ : ¬ Crashed es₁ := by
    split at hes₁
    · obtain ⟨record, rfl⟩ := hes₁
      exact not_crashed_ending record
    · simp [Crashed, hes₁]
  have hcalm₂ : ¬ Crashed es₂ := by simp [Crashed, hes₂]
  have hnone : s₂.lease.display = none := by rw [hl₂, hl₁, hs]
  refine (leads_release_of_none hnone).bind (fun _ _ _ h => by cases h.1) fun _ _ _ h₃ => .pure ?_
  rw [h₃.2.1, List.append_nil, List.append_nil]
  exact ⟨rfl, DealsAs.append_nothing hd₁ hd₂, not_crashed_append hcalm₁ hcalm₂⟩

/-- A second crash, on the way down, may leave handles behind. -/
theorem leads_bail (cause : Crash) {s : Session α σ} (hs : s.control.state ≠ .terminated) :
    (bail cause).Leads s fun result es s' => (∃ c, result = .error c) ∧ ∃ record rest,
      es = ending record ++ rest ∧ MakesNone es ∧
      (∀ kind : HandleKind, Traded (kind.held s.lease) (kind.doings es) (kind.held s'.lease)) ∧
      (Crashed rest ∨ s'.lease = s.lease.released) := by
  have hlt : s.control.state.rank < Lifecycle.terminated.rank := by
    cases h : s.control.state <;> first | exact absurd h hs | decide
  refine (leads_reach .terminated s).bind (fun _ _ _ h => by cases h.1) fun _ es₁ s₁ h₁ => ?_
  obtain ⟨-, hl₁, -, hes₁⟩ := h₁
  rw [if_pos hlt] at hes₁
  obtain ⟨record, hrecord⟩ := hes₁
  obtain rfl : es₁ = ending record := hrecord
  have hdown : ∀ (rest : List (Event α)) (s₂ : Session α σ), MakesNone rest →
      (∀ kind : HandleKind,
        Traded (kind.held s₁.lease) (kind.doings rest) (kind.held s₂.lease)) →
      MakesNone (ending record ++ rest) ∧ ∀ kind : HandleKind,
        Traded (kind.held s.lease) (kind.doings (ending record ++ rest)) (kind.held s₂.lease) := by
    intro rest s₂ hnone hdeals
    refine ⟨(MakesNone.of_nothing (dealsAs_ending record)).append hnone, fun kind => ?_⟩
    rw [kind.doings_after_nothing (dealsAs_ending record), ← hl₁]
    exact hdeals kind
  refine (leads_release s₁).bind (fun e rest s₂ h => ?_) fun _ rest s₂ h => .throw ?_
  · obtain ⟨hdeals, hnone, hcrashed⟩ := h
    obtain ⟨hmakes, htraded⟩ := hdown rest s₂ hnone hdeals
    exact ⟨⟨e, rfl⟩, record, rest, rfl, hmakes, htraded, .inl hcrashed⟩
  · obtain ⟨hdeals, hnone, hlease⟩ := h
    obtain ⟨hmakes, htraded⟩ := hdown rest s₂ hnone hdeals
    rw [List.append_nil]
    exact ⟨⟨cause, rfl⟩, record, rest, rfl, hmakes, htraded, .inr (hl₁ ▸ hlease)⟩

/-! ## the way up -/

variable [Scalar α]

theorem leads_prepare (r : Renderer α) (s : Session α σ) :
    (r.prepare : Play α σ (Except DisplayError (Scene α))).Leads s fun _ es s' =>
      Acquired r.window s.lease es s'.lease := by
  rw [r.prepare_eq]
  refine (leads_acquire r.window s).bind (fun _ _ _ h => h) fun result es s' h => ?_
  cases result with
  | error e => exact .pure (by rw [List.append_nil]; exact h)
  | ok _ =>
    have hfurnish : (r.furnish : Play α σ (Except DisplayError (Scene α))).Keeps :=
      closed_furnish closed_keeps (fun _ _ => rfl) r
    exact (hfurnish s').mono fun _ _ _ hes => h.append_nothing hes.1 hes.2

variable [Trig α]

theorem leads_work (r : Renderer α) (ticks : List Tick) (s : Session α σ) :
    (r.work ticks).Leads s fun _ es s' => Acquired r.window s.lease es s'.lease := by
  refine ((leads_reach .preparing s).and (keeps_reach _ s)).bind
    (fun _ _ _ h => by cases h.1.1) fun _ es₁ s₁ h₁ => ?_
  obtain ⟨-, hl, hes₁⟩ := h₁
  have hprepare := leads_prepare r s₁
  rw [hl] at hprepare
  refine hprepare.bind (fun _ _ _ h => h.prepend_nothing hes₁) fun result es₂ s₂ h₂ => ?_
  cases result with
  | error e => exact .pure (by rw [List.append_nil]; exact h₂.prepend_nothing hes₁)
  | ok scene =>
    have hrest : (do reach .running; frames ticks scene : Play α σ Exit).Keeps :=
      (keeps_reach _).bind fun _ => closed_frames closed_keeps (fun _ => Call.isIdle_of_isUse)
        (fun _ => rfl) keeps_request ticks scene
    exact (hrest s₂).mono fun _ _ _ h => (h₂.append_nothing h.1 h.2).prepend_nothing hes₁

namespace Renderer

/-- The run up to where it counts as terminated; the requests `before` were made before it. -/
def climb (r : Renderer α) (before : Requests) (ticks : List Tick) : Play α σ Exit := do
  request before
  let exit ← r.work ticks
  reach .draining
  release
  return exit

theorem goesOn_climb (r : Renderer α) (before : Requests) (ticks : List Tick) :
    (r.climb before ticks : Play α σ Exit).GoesOn := by
  refine closed_goesOn.bind (goesOn_request before) fun _ => ?_
  refine closed_goesOn.bind (closed_work closed_goesOn (fun _ _ => trivial) (fun _ => trivial)
    goesOn_request (fun l hl => goesOn_reach ?_) (goesOn_acquire _) ticks) fun exit => ?_
  · rintro rfl
    exact absurd hl (by decide)
  refine closed_goesOn.bind (goesOn_reach nofun) fun _ => ?_
  exact closed_goesOn.bind goesOn_release fun _ => closed_goesOn.pure exit

/-- Up to its end a run holds what is live.  Where it gets there nothing is held any more; where a
crash breaks it off before the teardown has begun, a release can end all that is held. -/
theorem leads_climb (r : Renderer α) (before : Requests) (ticks : List Tick) (display : σ) :
    (r.climb before ticks).Leads (.ofDisplay display) fun result es s =>
      Accounted es s.lease ∧ match result with
        | .ok _ => s.lease.display = none ∧ ∀ kind : HandleKind, kind.held s.lease = none
        | .error _ => s.lease.Grounded ∨ Lifecycle.draining.rank ≤ s.control.state.rank := by
  have hstart : (Session.ofDisplay display : Session α σ).lease = .empty := rfl
  refine ((leads_request before _).and (keeps_request before _)).bind
    (fun _ _ _ h => by cases h.1.1) fun _ es₁ s₁ h₁ => ?_
  obtain ⟨-, hl₁, hes₁⟩ := h₁
  have hwork := leads_work r ticks s₁
  rw [hl₁, hstart] at hwork
  refine hwork.bind (fun _ es s' h => ⟨(h.prepend_nothing hes₁).accounted, .inl h.grounded⟩)
    fun exit es₂ s₂ h₂ => ?_
  refine ((leads_reach .draining s₂).and (keeps_reach _ s₂)).bind
    (fun _ _ _ h => by cases h.1.1) fun _ es₃ s₃ h₃ => ?_
  obtain ⟨⟨-, -, hrank, -⟩, hl₃, hes₃⟩ := h₃
  have hheld : Accounted (es₁ ++ (es₂ ++ es₃)) s₃.lease := by
    rw [← List.append_assoc, hl₃]
    exact (h₂.prepend_nothing hes₁).accounted.append_nothing hes₃
  refine (leads_release s₃).plays.bind (fun e es₄ s₄ h => ?_) fun _ es₄ s₄ h => .pure ?_
  · obtain ⟨hp, hdeals, hmakes, -⟩ := h
    refine ⟨?_, .inr ?_⟩
    · rw [← List.append_assoc es₂, ← List.append_assoc es₁]
      exact hheld.append hdeals hmakes
    · rw [hp.control]
      exact hrank.trans (Control.grows_after _ es₄).state
  · obtain ⟨-, hdeals, hmakes, hlease⟩ := h
    refine ⟨?_, ?_, fun kind => ?_⟩
    · rw [List.append_nil, ← List.append_assoc es₂, ← List.append_assoc es₁]
      exact hheld.append hdeals hmakes
    · rw [hlease, hl₃, Lease.released]
      split
      · rfl
      · next h => exact Option.not_isSome_iff_eq_none.mp h
    · rw [hlease, hl₃]
      exact Lease.held_released h₂.grounded kind

theorem life_eq (r : Renderer α) (before : Requests) (ticks : List Tick) (display : σ) :
    r.life before ticks display = match (r.climb before ticks).outcome (.ofDisplay display) with
      | (.ok exit, s) => (tryCatch (finish exit) bail : Play α σ Exit).outcome s
      | (.error cause, s) => (bail cause : Play α σ Exit).outcome s := by
  let up : Play α σ Exit := do
    let exit ← r.work ticks
    reach .draining
    release
    return exit
  have hlive : r.live ticks = up >>= finish := by simp [live, up, finish]
  have hclimb : (r.climb before ticks).outcome (.ofDisplay display) =
      up.outcome (Session.receive (.ofDisplay display) before) := by
    rw [climb, outcome_bind]
    rfl
  have hlife : r.life before ticks display =
      (r.run ticks).outcome (Session.receive (.ofDisplay display) before) := by
    rw [life, outcome_bind]
    rfl
  have hrun : r.run ticks = tryCatch (up >>= finish) bail := hlive ▸ rfl
  rw [hlife, hclimb, hrun, outcome_tryCatch, outcome_bind]
  rcases up.outcome _ with ⟨cause | exit, s⟩
  · rfl
  · exact (outcome_tryCatch ..).symm

end Renderer

/-! ## the parts of a run -/

/-- `up` is a run until it counts as terminated, and `down` what follows. -/
structure Returned (up down : List (Event α)) : Prop where
  unpublished : .terminated ∉ reachedIn up
  accounted : Accounted up .empty
  idle : DealsAs down []
  calm : ¬ Crashed (up ++ down)

/-- After `pre` a crash breaks the run `up` off; `down` follows.  Of a lease that is whole, all is
released then unless a second call crashes. -/
structure BrokenOff (pre up down : List (Event α)) : Prop where
  unpublished : .terminated ∉ reachedIn up
  crash : CrashesAfter pre up
  ended : ∃ record, ending record <+: down
  makesNone : MakesNone down
  late : (Control.initial.after up).state.rank < Lifecycle.draining.rank →
    Crashed down ∨ Accounted (up ++ down) .empty

theorem returned_life (r : Renderer α) {before : Requests} {ticks : List Tick} {display : σ}
    {exit : Exit} {s : Session α σ}
    (hm : (r.climb before ticks).outcome (.ofDisplay display) = (.ok exit, s)) :
    ∃ up down, (r.life before ticks display).1 = .ok exit ∧
      (r.life before ticks display).2.trace.toList = up ++ down ∧ Returned up down := by
  obtain ⟨up, hp, hup, hacc, hlease⟩ := (r.goesOn_climb before ticks (.ofDisplay display)).and
    (r.leads_climb before ticks display)
  rw [hm] at hp hup hacc hlease
  obtain ⟨hdisplay, hheld⟩ := hlease
  obtain ⟨down, hp', hc, hdown, hcalm⟩ := leads_finish exit hdisplay
  have hlife : r.life before ticks display = (finish exit).outcome s := by
    rw [r.life_eq, hm]
    dsimp only
    rw [outcome_tryCatch]
    rcases hx : (finish exit).outcome s with ⟨_ | _, s'⟩
    · rw [hx] at hc
      cases hc
    · rfl
  have htrace : s.trace.toList = up := hp.trace
  rw [hlife]
  refine ⟨up, down, hc, by rw [hp'.trace, htrace], hup.unpublished, fun hg kind => ?_, hdown,
    not_crashed_append hup.broken hcalm⟩
  rw [hacc hg kind, hheld kind, kind.held_empty]

theorem brokenOff_life (r : Renderer α) {before : Requests} {ticks : List Tick} {display : σ}
    {cause : Crash} {s : Session α σ}
    (hm : (r.climb before ticks).outcome (.ofDisplay display) = (.error cause, s)) :
    ∃ cause pre up down, (r.life before ticks display).1 = .error cause ∧
      (r.life before ticks display).2.trace.toList = up ++ down ∧ BrokenOff pre up down := by
  obtain ⟨up, hp, hup, hacc, hlease⟩ := (r.goesOn_climb before ticks (.ofDisplay display)).and
    (r.leads_climb before ticks display)
  rw [hm] at hp hup hacc hlease
  obtain ⟨pre, hpre⟩ := hup.broken
  have htrace : s.trace.toList = up := hp.trace
  have hcontrol : s.control = Control.initial.after up := hp.control
  have hstate : s.control.state ≠ .terminated :=
    hcontrol ▸ fun h => hup.unpublished (published_of_state h)
  obtain ⟨down, hp', ⟨c, hc⟩, record, rest, hdown, hmakes, hdeals, hend⟩ := leads_bail cause hstate
  have hlife : r.life before ticks display = (bail cause).outcome s := by rw [r.life_eq, hm]
  rw [hlife]
  refine ⟨c, pre, up, down, hc, by rw [hp'.trace, htrace], hup.unpublished, hpre,
    ⟨record, rest, hdown.symm⟩, hmakes, fun hlt => ?_⟩
  refine hend.imp (fun h => hdown ▸ h.append_right) fun hend => hacc.append (fun kind => ?_) hmakes
  have hgrounded : s.lease.Grounded := by
    refine hlease.resolve_right fun hle => absurd hlt (Nat.not_lt_of_le ?_)
    rw [← hcontrol]
    exact hle
  rw [kind.held_empty, ← Lease.held_released hgrounded kind, ← hend]
  exact hdeals kind

end

/-! ## the laws -/

/-- Whoever reads that the run is terminated finds nothing of it live. -/
def ReleasedInTime (es : List (Event α)) : Prop :=
  ∀ pre later, es = pre ++ later → (Control.initial.after pre).state = .terminated → Vacant pre

/-- What a state can be read only after. -/
theorem exists_of_terminated {up down es later : List (Event α)} (hu : .terminated ∉ reachedIn up)
    (he : up ++ down = es ++ later) (hs : (Control.initial.after es).state = .terminated) :
    ∃ mid, es = up ++ mid ∧ down = mid ++ later := by
  rcases List.append_eq_append_iff.mp he with ⟨mid, rfl, hm⟩ | ⟨mid, rfl, -⟩
  · exact ⟨mid, rfl, hm⟩
  · rw [reachedIn_append, List.mem_append, not_or] at hu
    exact absurd (published_of_state hs) hu.1

theorem releasedInTime_of_vacant {up down : List (Event α)} (hu : .terminated ∉ reachedIn up)
    (h : Vacant up) (hm : MakesNone down) : ReleasedInTime (up ++ down) := by
  intro es later he hs
  obtain ⟨mid, rfl, rfl⟩ := exists_of_terminated hu he hs
  exact h.append hm.of_append.1

theorem Returned.releasedInTime {up down : List (Event α)} (h : Returned up down)
    (hg : GrantsEnds (up ++ down)) : ReleasedInTime (up ++ down) := by
  refine releasedInTime_of_vacant h.unpublished ?_ (.of_nothing h.idle)
  exact h.accounted.vacant (fun kind => (hg.of_append kind).1) fun kind => kind.held_empty

namespace BrokenOff

variable {pre up down : List (Event α)}

theorem releasedInTime_iff (h : BrokenOff pre up down) :
    ReleasedInTime (up ++ down) ↔ Vacant pre := by
  rw [← h.crash.vacant_iff]
  refine ⟨fun hr => ?_, fun hv => releasedInTime_of_vacant h.unpublished hv h.makesNone⟩
  obtain ⟨record, rest, rfl⟩ := h.ended
  rw [← vacant_append_nothing (dealsAs_ending record)]
  refine hr _ rest (List.append_assoc ..).symm ?_
  rw [Control.after_append]
  show ((Control.initial.after up).state.later .terminated) = .terminated
  cases (Control.initial.after up).state <;> rfl

/-- What is gone before the first crash is gone at every crash. -/
theorem vacant_iff (h : BrokenOff pre up down) :
    Vacant pre ↔ ∀ es c later, up ++ down = es ++ .call c none :: later → Vacant es := by
  refine ⟨fun hv es c later he => ?_, fun hall => ?_⟩
  · rcases h.crash.split he with ⟨rfl, -⟩ | ⟨mid, rfl, rfl⟩
    · exact hv
    · exact (h.crash.vacant_iff.mpr hv).append h.makesNone.of_append.1
  · obtain ⟨c, rest, rfl, -, -⟩ := h.crash
    exact hall pre c (rest ++ down) (by rw [List.append_assoc, List.cons_append])

theorem vacant_late (h : BrokenOff pre up down) (hg : GrantsEnds (up ++ down))
    {es later : List (Event α)} {c : Call α} (he : up ++ down = es ++ .call c none :: later)
    (hes : ¬ Crashed es) (hlater : ¬ Crashed later)
    (hs : (Control.initial.after es).state.rank < Lifecycle.draining.rank) :
    Vacant (up ++ down) := by
  rcases h.crash.split he with ⟨rfl, rest, rfl⟩ | ⟨mid, rfl, -⟩
  · rw [← h.crash.state_eq] at hs
    have hacc := (h.late hs).resolve_left fun hc => hlater hc.append_right
    exact hacc.vacant hg fun kind => kind.held_empty
  · obtain ⟨c', rest, rfl, -, -⟩ := h.crash
    exact absurd ⟨c', by simp⟩ hes

end BrokenOff

/-- What the state `terminated` tells of the handles of a run. -/
structure TerminationLaws (result : Except Crash Exit) (es : List (Event α)) : Prop where
  /-- a run that returns has released all by then -/
  returned : ∀ exit, result = .ok exit → ReleasedInTime es
  /-- in general a run has done so exactly where no call crashes while a handle is live -/
  exact : ReleasedInTime es ↔ ∀ pre c later, es = pre ++ .call c none :: later → Vacant pre
  /-- after one crash, before the teardown, all is released all the same -/
  late : ∀ pre c later, es = pre ++ .call c none :: later → ¬ Crashed pre → ¬ Crashed later →
    (Control.initial.after pre).state.rank < Lifecycle.draining.rank → Vacant es

/-- **Terminated means released, but for crashes.**  On a display that grants the end of every live
handle, whatever else fails or crashes there. -/
theorem terminationLaws [Display α σ] [Scalar α] [Trig α] (r : Renderer α) (before : Requests)
    (ticks : List Tick) (display : σ)
    (hg : GrantsEnds (r.life before ticks display).2.trace.toList) :
    TerminationLaws (r.life before ticks display).1
      (r.life before ticks display).2.trace.toList := by
  rcases hm : (r.climb before ticks).outcome (.ofDisplay display) with ⟨cause | exit, s⟩
  · obtain ⟨cause, pre, up, down, hr, he, h⟩ := brokenOff_life r hm
    rw [he] at hg ⊢
    rw [hr]
    refine ⟨nofun, h.releasedInTime_iff.trans h.vacant_iff, ?_⟩
    exact fun _ _ _ he hpre hlater hs => h.vacant_late hg he hpre hlater hs
  · obtain ⟨up, down, hr, he, h⟩ := returned_life r hm
    rw [he] at hg ⊢
    have hcalm : ∀ pre c later, up ++ down ≠ pre ++ .call c none :: later :=
      fun pre c later he => h.calm ⟨c, by rw [he]; simp⟩
    refine ⟨fun _ _ => h.releasedInTime hg, ⟨fun _ pre c later he => ?_, fun _ => ?_⟩, ?_⟩
    · exact absurd he (hcalm pre c later)
    · exact h.releasedInTime hg
    · exact fun pre c later he => absurd he (hcalm pre c later)

/-! ### a run that crashes -/

def spriteless : Renderer Float32 where
  settings := .ofSurface ⟨480, 800, by decide, by decide⟩
  window := 0
  decoder := Png.decoder
  assets name := .error (.notFound name)
  units := ⟨fun _ => 0, 0⟩

/-- The first draw call crashes, once a context and a surface are made. -/
def crashing : StandIn := { StandIn.initial with crashAt := some "set_clear_color" }

def crashingLife : List (Event Float32) := (spriteless.life .none [] crashing).2.trace.toList

theorem grantsEnds_crashingLife : GrantsEnds crashingLife := by
  have hcontext : HandleKind.context.doings crashingLife = [.made 3, .ended 3 true] := by
    decide +kernel
  have hsurface : HandleKind.surface.doings crashingLife = [.made 4, .ended 4 true] := by
    decide +kernel
  rintro (_ | _)
  · rw [hcontext]
    simp [Ledger.granted_cons, Ledger.granted_nil]
  · rw [hsurface]
    simp [Ledger.granted_cons, Ledger.granted_nil]

/-- Both are live when the run counts as terminated. -/
theorem not_releasedInTime_crashingLife :
    (Control.initial.after (crashingLife.take 12)).state = .terminated ∧
      (HandleKind.context.account (crashingLife.take 12)).live = [3] ∧
      (HandleKind.surface.account (crashingLife.take 12)).live = [4] ∧
      ¬ ReleasedInTime crashingLife := by
  have hstate : (Control.initial.after (crashingLife.take 12)).state = .terminated := by
    decide +kernel
  have hcontext : (HandleKind.context.account (crashingLife.take 12)).live = [3] := by
    decide +kernel
  refine ⟨hstate, hcontext, by decide +kernel, fun h => ?_⟩
  have hlive := h _ (crashingLife.drop 12) (List.take_append_drop ..).symm hstate .context
  rw [hcontext] at hlive
  cases hlive

/-- In the end they are released all the same. -/
theorem terminationLaws_crashingLife :
    GrantsEnds crashingLife ∧ ¬ ReleasedInTime crashingLife ∧ Vacant crashingLife := by
  have hlaws := terminationLaws spriteless .none [] crashing grantsEnds_crashingLife
  have hcrash : crashingLife[9]?.any Event.crashes = true := by decide +kernel
  obtain ⟨c, he⟩ := exists_call_of_crashes hcrash
  refine ⟨grantsEnds_crashingLife, fun h => ?_, hlaws.late _ c _ he ?_ ?_ (by decide +kernel)⟩
  · exact absurd (hlaws.exact.mp h _ c _ he .context) (by decide +kernel)
  · rw [crashed_iff]
    decide +kernel
  · rw [crashed_iff]
    decide +kernel

end FireflyOverlay
