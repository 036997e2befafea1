import FireflyOverlay.Proofs.Lease.Dealings
import Mathlib.Data.Set.Defs

/-!
# What a display has in use

Of a display that several holders share it matters which handles are live and what is current.

* `Registry`                the two, read off the state of a display;
* `Registry.Faithful`       how the calls change them: only the calls for a handle and for its end
                            change whether it is live, and only `makeCurrent` binds;
* `Registry.frees_release`  a release makes no handle, binds nothing, and spares every handle whose
                            end it does not ask for;
* `Registry.current_of_ensured`   where `ensureCurrent` succeeds, what it binds is current;
* `StandIn.registry`        the registry of a stand-in is faithful, whatever its script.
-/

namespace FireflyOverlay

structure Registry (σ : Type) where
  live : HandleKind → σ → Set Nat
  current : σ → Option Binding

variable {α σ β γ : Type}

def Call.binds : Call α → Bool
  | .makeCurrent _ (some _) => true
  | _ => false

theorem Call.binds_of_isRelease {c : Call α} (h : c.isRelease = true) : c.binds = false := by
  match c with
  | .makeCurrent _ none | .destroyContext _ _ | .destroySurface _ _ | .lastError => rfl

section
variable [Display α σ]

variable (α) in
structure Registry.Faithful (r : Registry σ) : Prop where
  live_step : ∀ (kind : HandleKind) (c : Call α) (d : σ) (n : Nat), kind.makes c = false →
    kind.ends? c ≠ some n → (n ∈ r.live kind (Display.step c d).2 ↔ n ∈ r.live kind d)
  loosened : ∀ (c : Call α) (d : σ), c.binds = false →
    r.current (Display.step c d).2 = r.current d ∨ r.current (Display.step c d).2 = none
  asked : ∀ (c : Call α) (d : σ), c.isQuery = true → r.current (Display.step c d).2 = r.current d
  bound : ∀ (x : DisplayId) (b : Binding) (d : σ),
    (Display.step (.makeCurrent x (some b) : Call α) d).1.reply = some true →
      r.current (Display.step (.makeCurrent x (some b) : Call α) d).2 = some b
  toldContext : ∀ (d : σ) (v : Option ContextId),
    (Display.step (.currentContext : Call α) d).1.reply = some v →
      v = (r.current d).map Binding.context
  toldSurface : ∀ (d : σ) (v : Option SurfaceId),
    (Display.step (.currentSurface : Call α) d).1.reply = some v →
      v = (r.current d).map Binding.surface

namespace Registry

variable {r : Registry σ}

/-! ## what a release changes -/

/-- Handles are only given up, and no binding is made. -/
def Frees (r : Registry σ) (m : Play α σ β) : Prop :=
  ∀ s, m.Leads s fun _ es s' =>
    (∀ (kind : HandleKind) n, .made n ∉ kind.doings es) ∧
    (r.current s'.display = r.current s.display ∨ r.current s'.display = none) ∧
    ∀ (kind : HandleKind) n, (∀ done, .ended n done ∉ kind.doings es) →
      (n ∈ r.live kind s'.display ↔ n ∈ r.live kind s.display)

namespace Frees

theorem pure (v : β) : r.Frees (pure v : Play α σ β) := fun _ =>
  .pure ⟨fun _ _ => List.not_mem_nil, .inl rfl, fun _ _ _ => Iff.rfl⟩

theorem bind {m : Play α σ β} {f : β → Play α σ γ} (h : r.Frees m) (hf : ∀ v, r.Frees (f v)) :
    r.Frees (m >>= f) := by
  refine fun s => (h s).bind (fun _ _ _ h => h) fun v es s' hes => (hf v s').mono ?_
  intro _ fs s'' hfs
  obtain ⟨hm, hc, hl⟩ := hes
  obtain ⟨hm', hc', hl'⟩ := hfs
  refine ⟨MakesNone.append hm hm', ?_, fun kind n hn => ?_⟩
  · rcases hc' with hc' | hc'
    · rwa [hc']
    · exact .inr hc'
  · simp only [kind.doings_append, List.mem_append, not_or] at hn
    exact (hl' kind n fun done => (hn done).2).trans (hl kind n fun done => (hn done).1)

theorem get {f : Session α σ → Play α σ γ} (h : ∀ s, r.Frees (f s)) :
    r.Frees (MonadState.get >>= f : Play α σ γ) := fun s => .get (h s s)

/-- Steps that are no calls. -/
theorem of_still {m : Play α σ β}
    (h : ∀ s, m.Leads s fun _ es s' =>
      s'.display = s.display ∧ ∀ kind : HandleKind, kind.doings es = []) : r.Frees m := by
  refine fun s => (h s).mono fun _ es s' hes => ?_
  rw [hes.1]
  exact ⟨MakesNone.of_nothing hes.2, .inl rfl, fun _ _ _ => Iff.rfl⟩

end Frees

theorem frees_log (level : Level) (message : String) :
    r.Frees (log level message : Play α σ Unit) :=
  .of_still fun s => (leads_log level message s).mono fun _ es s' h =>
    ⟨h.2.2.1, fun kind => by rw [h.2.1]; cases kind <;> rfl⟩

theorem frees_holdLease (f : Lease → Lease) : r.Frees (holdLease f : Play α σ Unit) :=
  .of_still fun s => (leads_holdLease f s).mono fun _ es s' h =>
    ⟨h.2.2.1, fun kind => by rw [h.2.1]; rfl⟩

theorem frees_perform (hr : r.Faithful α) {c : Call α} (hb : c.binds = false)
    (hm : ∀ kind : HandleKind, kind.makes c = false) : r.Frees (perform c : Play α σ c.Reply) := by
  refine fun s => (leads_perform c s).mono fun _ es s' h => ?_
  rw [h.2.2.1]
  refine ⟨h.2.1 ▸ makesNone_callEvents hm _, hr.loosened c s.display hb, fun kind n hn => ?_⟩
  refine hr.live_step kind c s.display n (hm kind) fun he => ?_
  obtain ⟨done, hd⟩ := kind.doing_of_ends he (Display.step c s.display).1.reply
  refine hn done ?_
  rw [h.2.1, kind.doings_callEvents, hd]
  exact List.mem_singleton_self _

theorem closed_frees (hr : r.Faithful α) :
    Play.Closed (fun _ (m : Play α σ _) => r.Frees m) fun c => c.isRelease = true where
  pure := .pure
  bind := .bind
  get := .get
  log := frees_log
  perform _ hc := frees_perform hr (Call.binds_of_isRelease hc) (Call.makes_of_isRelease hc)

theorem frees_release (hr : r.Faithful α) : r.Frees (release : Play α σ Unit) :=
  closed_release (closed_frees hr) (fun _ hc => hc) frees_holdLease

/-! ## what is current then -/

theorem eq_of_told {cur : Option Binding} {b : Binding}
    (hc : some b.context = cur.map Binding.context)
    (hs : some b.surface = cur.map Binding.surface) : cur = some b := by
  obtain ⟨surface, context⟩ := b
  cases cur with
  | none => cases hc
  | some b' =>
    rw [show context = b'.context from Option.some.inj hc,
      show surface = b'.surface from Option.some.inj hs]

theorem leads_isCurrent (hr : r.Faithful α) (b : Binding) (s : Session α σ) :
    (isCurrent b).Leads s fun result _ s' =>
      result = .ok true → r.current s'.display = some b := by
  refine (leads_perform .currentContext s).bind (fun _ _ _ _ h => by cases h) fun c es s' h => ?_
  by_cases hc : c = some b.context
  · rw [if_pos hc]
    refine (leads_perform .currentSurface s').bind (fun _ _ _ _ h => by cases h)
      fun t fs s'' h' => .pure fun ht => ?_
    have ht : t = some b.surface := of_decide_eq_true (Except.ok.inj ht)
    have hs' : r.current s'.display = r.current s.display := by
      rw [h.2.2.1]
      exact hr.asked _ _ rfl
    have hs'' : r.current s''.display = r.current s'.display := by
      rw [h'.2.2.1]
      exact hr.asked _ _ rfl
    have htoldc : c = (r.current s.display).map Binding.context := hr.toldContext _ c h.1.symm
    have htolds : t = (r.current s'.display).map Binding.surface := hr.toldSurface _ t h'.1.symm
    rw [hs'', hs']
    rw [hc] at htoldc
    rw [ht, hs'] at htolds
    exact eq_of_told htoldc htolds
  · rw [if_neg hc]
    exact .pure fun h => by cases h

theorem current_of_ensured (hr : r.Faithful α) (s : Session α σ) {d : DisplayId} {b : Binding}
    (hb : s.lease.bound? = some (d, b)) :
    ensureCurrent.Leads s fun result _ s' =>
      result = .ok (.ok ()) → r.current s'.display = some b := by
  refine .get ?_
  rw [hb]
  refine (leads_isCurrent hr b s).bind (fun _ _ _ _ h => by cases h) fun current es s' h => ?_
  cases current with
  | true => exact .pure fun _ => h rfl
  | false =>
    refine (leads_log _ _ s').bind (fun _ _ _ _ h => by cases h) fun _ _ s₁ _ => ?_
    refine (leads_perform (.makeCurrent d (some b)) s₁).bind (fun _ _ _ _ h => by cases h)
      fun bound _ s₂ h₂ => ?_
    cases bound with
    | true =>
      refine .pure fun _ => ?_
      rw [h₂.2.2.1]
      exact hr.bound d b _ h₂.1.symm
    | false =>
      refine (leads_perform .lastError s₂).bind (fun _ _ _ _ h => by cases h) fun code _ s₃ _ => ?_
      exact (leads_log _ _ s₃).bind (fun _ _ _ _ h => by cases h) fun _ _ _ _ =>
        .pure fun h => by cases h

end Registry

end

/-! ## stand-ins -/

namespace StandIn

def handles : HandleKind → StandIn → List Nat
  | .context => StandIn.contexts
  | .surface => StandIn.surfaces

def registry : Registry StandIn where
  live kind s := { n | n ∈ handles kind s }
  current := StandIn.current

/-- Nothing is made or ended, and at most the binding is lost. -/
structure AtMostLost (s s' : StandIn) : Prop where
  handles : ∀ kind, handles kind s' = handles kind s
  current : s'.current = s.current ∨ s'.current = none

namespace AtMostLost

variable {s s' s'' : StandIn}

theorem of_eq (hc : s'.contexts = s.contexts) (ht : s'.surfaces = s.surfaces)
    (hb : s'.current = s.current) : AtMostLost s s' :=
  ⟨fun kind => match kind with
    | .context => hc
    | .surface => ht, .inl hb⟩

theorem trans (h : AtMostLost s s') (h' : AtMostLost s' s'') : AtMostLost s s'' where
  handles kind := (h'.handles kind).trans (h.handles kind)
  current := by
    rcases h'.current with hb | hb
    · rw [hb]
      exact h.current
    · exact .inr hb

theorem foldl {f : StandIn → Cue → StandIn} (hf : ∀ s c, AtMostLost s (f s c)) (cs : List Cue)
    (s : StandIn) : AtMostLost s (cs.foldl f s) := by
  induction cs generalizing s with
  | nil => exact of_eq rfl rfl rfl
  | cons c cs ih => exact (hf s c).trans (ih (f s c))

end AtMostLost

theorem atMostLost_fail (s : StandIn) (fault : Fault) : AtMostLost s (s.fail fault) := by
  unfold fail
  split <;> exact .of_eq rfl rfl rfl

theorem atMostLost_afterFault (s : StandIn) (fault : Fault) :
    AtMostLost s (s.afterFault fault) := by
  unfold afterFault
  split
  · split <;> exact .of_eq rfl rfl rfl
  · exact .of_eq rfl rfl rfl

theorem atMostLost_detach (s : StandIn) : AtMostLost s s.detach :=
  ⟨fun kind => by cases kind <;> rfl, .inr rfl⟩

theorem atMostLost_playCues (s : StandIn) : AtMostLost s s.playCues := by
  have hloss : ∀ (s : StandIn) c, AtMostLost s (s.playLoss c) := fun s c => match c with
    | .lose (some refusal) => s.atMostLost_detach.trans (s.detach.atMostLost_fail refusal)
    | .lose none => s.atMostLost_detach
    | .request _ | .failSwap _ => .of_eq rfl rfl rfl
  have hfailure : ∀ (s : StandIn) c, AtMostLost s (s.playFailure c) := fun s c => match c with
    | .failSwap fault => s.atMostLost_fail fault
    | .request _ | .lose _ => .of_eq rfl rfl rfl
  exact (AtMostLost.foldl hloss _ s).trans (AtMostLost.foldl hfailure _ _)

/-- What a step can do: it fails, or it goes as it goes. -/
theorem attempt_snd {β : Type} {P : StandIn → Prop} {s : StandIn} {step : Step} {sentinel : β}
    {succeed : StandIn → β × StandIn} (hfault : ∀ s', AtMostLost s s' → P s')
    (hsucceed : P (succeed s).2) : P (s.attempt step sentinel succeed).2 := by
  unfold attempt
  split
  · exact hfault _ (s.atMostLost_afterFault _)
  · exact hsucceed

theorem step_snd {P : StandIn → Prop} {c : Call α} {s : StandIn}
    (hcrash : ∀ s', AtMostLost s s' → P s') (h : P (s.respond c).2) : P (step c s).2 := by
  unfold step
  split
  · exact hcrash _ (.of_eq rfl rfl rfl)
  · exact h

theorem atMostLost_draw (s : StandIn) (c : DrawCall α) : AtMostLost s (s.draw c).2 := by
  cases c <;> exact .of_eq rfl rfl rfl

theorem atMostLost_swap (s : StandIn) : AtMostLost s s.swap.2 := by
  have hcount : AtMostLost s { s with swaps := s.swaps + 1 } := .of_eq rfl rfl rfl
  have hcues := hcount.trans (atMostLost_playCues _)
  show AtMostLost s (StandIn.attempt _ .swap false fun s => (true, s)).2
  exact attempt_snd (fun _ h => hcues.trans h) hcues

theorem atMostLost_chooseConfig (s : StandIn) (d : DisplayId) (f : PixelFormat) :
    AtMostLost s (s.respond (.chooseConfig d f : Call α)).2 := by
  unfold respond
  split
  · exact s.atMostLost_afterFault _
  · exact s.atMostLost_afterFault _
  · exact .of_eq rfl rfl rfl

/-- Calls that neither make nor end a handle, nor bind. -/
theorem atMostLost_step {c : Call α} (hc : c.isIdle = true) (hb : c.binds = false) (s : StandIn) :
    AtMostLost s (step c s).2 := by
  have still : ∀ {β : Type} {step : Step} {sentinel : β} {succeed : StandIn → β × StandIn},
      AtMostLost s (succeed s).2 → AtMostLost s (s.attempt step sentinel succeed).2 :=
    attempt_snd fun _ h => h
  refine step_snd (fun _ h => h) ?_
  cases c with
  | createContext | createSurface | destroyContext | destroySurface => cases hc
  | defaultDisplay | openDisplay => exact still (.of_eq rfl rfl rfl)
  | chooseConfig d f => exact s.atMostLost_chooseConfig d f
  | makeCurrent d b =>
    cases b with
    | none => exact still ⟨fun kind => by cases kind <;> rfl, .inr rfl⟩
    | some b => cases hb
  | currentContext | currentSurface | lastError => exact .of_eq rfl rfl rfl
  | swapBuffers => exact s.atMostLost_swap
  | draw c => exact s.atMostLost_draw c

/-- Of the handles of the kind at most the one is gone whose end is asked for. -/
def EndsAtMost (kind : HandleKind) (c : Call α) (s s' : StandIn) : Prop :=
  handles kind s' = handles kind s ∨
    ∃ n, kind.ends? c = some n ∧ handles kind s' = (handles kind s).erase n

theorem endsAtMost_step (kind : HandleKind) {c : Call α} (hm : kind.makes c = false) (s : StandIn) :
    EndsAtMost kind c s (step c s).2 := by
  have goes : ∀ {β : Type} {step : Step} {sentinel : β} {succeed : StandIn → β × StandIn},
      EndsAtMost kind c s (succeed s).2 →
        EndsAtMost kind c s (s.attempt step sentinel succeed).2 :=
    attempt_snd fun _ h => .inl (h.handles kind)
  cases hi : c.isIdle && !c.binds with
  | true =>
    obtain ⟨hc, hb⟩ := Bool.and_eq_true_iff.mp hi
    exact .inl ((atMostLost_step hc (Bool.not_eq_true' _ ▸ hb) s).handles kind)
  | false =>
    refine step_snd (fun _ h => .inl (h.handles kind)) ?_
    match kind, c with
    | .context, .makeCurrent _ (some b) | .surface, .makeCurrent _ (some b) => exact goes (.inl rfl)
    | .context, .createSurface _ _ _ | .surface, .createContext _ _ => exact goes (.inl rfl)
    | .context, .destroySurface _ _ | .surface, .destroyContext _ _ => exact goes (.inl rfl)
    | .context, .destroyContext _ n | .surface, .destroySurface _ n =>
      exact goes (.inr ⟨n, rfl, rfl⟩)

/-- At most the binding is lost. -/
def LoosensAtMost (s s' : StandIn) : Prop := s'.current = s.current ∨ s'.current = none

theorem loosensAtMost_step {c : Call α} (hb : c.binds = false) (s : StandIn) :
    LoosensAtMost s (step c s).2 := by
  have goes : ∀ {β : Type} {step : Step} {sentinel : β} {succeed : StandIn → β × StandIn},
      LoosensAtMost s (succeed s).2 → LoosensAtMost s (s.attempt step sentinel succeed).2 :=
    attempt_snd fun _ h => h.current
  cases hc : c.isIdle with
  | true => exact (atMostLost_step hc hb s).current
  | false =>
    refine step_snd (fun _ h => h.current) ?_
    cases c with
    | createContext | createSurface | destroyContext | destroySurface => exact goes (.inl rfl)
    | _ => cases hc

theorem step_query {c : Call α} (hq : c.isQuery = true) (s : StandIn) :
    (step c s).2.current = s.current := by
  unfold step
  split
  · rfl
  · cases c with
    | currentContext | currentSurface | lastError => rfl
    | _ => cases hq

theorem reply_step {c : Call α} {s : StandIn} {v : c.Reply} (h : (step c s).1.reply = some v) :
    step c s = s.respond c := by
  unfold step at h ⊢
  split at h
  · cases h
  · next hc => rw [if_neg hc]

/-- The registry of a stand-in is faithful. -/
theorem faithful_registry : registry.Faithful α where
  live_step kind c s n hm he := by
    show n ∈ handles kind (step c s).2 ↔ n ∈ handles kind s
    rcases endsAtMost_step kind hm s with h | ⟨m, hm, h⟩
    · rw [h]
    · rw [h]
      exact List.mem_erase_of_ne fun hn => he (by rw [hm, hn])
  loosened c s hb := loosensAtMost_step hb s
  asked c s hq := step_query hq s
  bound x b s h := by
    have hr := reply_step h
    have ha : (s.attempt .bind false fun s =>
        (true, { s with current := some b })).1.reply = some true :=
      (congrArg (·.1.reply) hr).symm.trans h
    show (step (.makeCurrent x (some b) : Call α) s).2.current = some b
    rw [hr]
    show (s.attempt .bind false fun s => (true, { s with current := some b })).2.current = some b
    unfold attempt at ha ⊢
    split at ha
    · cases ha
    · rfl
  toldContext s v h := by
    have hr := congrArg (·.1.reply) (reply_step h)
    exact (Option.some.inj (hr.symm.trans h)).symm
  toldSurface s v h := by
    have hr := congrArg (·.1.reply) (reply_step h)
    exact (Option.some.inj (hr.symm.trans h)).symm

end StandIn

end FireflyOverlay
