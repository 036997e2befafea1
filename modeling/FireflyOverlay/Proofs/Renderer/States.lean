import FireflyOverlay.Proofs.Control.Clones
import FireflyOverlay.Proofs.Renderer.Films

/-!
# The states of a renderer

A renderer publishes where it is.  Nothing but `reach` does so, hence the states of a run are those
that its outline passes through.

* `reachedIn`          the states that a stretch publishes;
* `Play.Silently p`    a play that publishes none, and whose results satisfy `p`; acquiring,
                       drawing, presenting and releasing are silent;
* `Exit.begun`         how far a run came before it was taken down;
* `ends_run_states`    the states of a run, whether it returns or crashes;
* `ControlLaws`        what the holders of controls can rely on, those of a renderer among them;
* `controlLaws`        they can.
-/

namespace FireflyOverlay

variable {α σ β γ : Type}

/-! ## states of a stretch -/

def Event.state? : Event α → Option Lifecycle
  | .state l => some l
  | _ => none

def reachedIn (es : List (Event α)) : List Lifecycle := es.filterMap Event.state?

theorem Session.states_eq (s : Session α σ) : s.states = reachedIn s.trace.toList := by
  unfold states reachedIn
  congr 1

theorem reachedIn_append (es fs : List (Event α)) :
    reachedIn (es ++ fs) = reachedIn es ++ reachedIn fs := List.filterMap_append

theorem reachedIn_logs (rs : List LogRecord) :
    reachedIn (rs.map (Event.log (α := α))) = [] := by
  induction rs with
  | nil => rfl
  | cons r rs ih => exact ih

theorem reachedIn_requestEvents (r : Requests) : reachedIn (requestEvents (α := α) r) = [] := by
  unfold requestEvents
  split <;> rfl

theorem reachedIn_callEvents (c : Call α) (r : Reaction c.Reply) :
    reachedIn (callEvents c r) = [] := by
  rw [callEvents, reachedIn_append, reachedIn_append, reachedIn_logs, reachedIn_requestEvents]
  rfl

theorem Control.state_after (c : Control) (es : List (Event α)) :
    (c.after es).state = (reachedIn es).foldl Lifecycle.later c.state := by
  induction es generalizing c with
  | nil => rfl
  | cons e es ih => cases e <;> exact ih _

/-- What is heard later is no less. -/
theorem Control.grows_after (c : Control) (es : List (Event α)) : c.Grows (c.after es) := by
  induction es generalizing c with
  | nil => exact .refl c
  | cons e es ih =>
    refine Grows.trans ?_ (ih (c.hear e))
    cases e with
    | request r => exact Control.le_through c [.request r]
    | state l => exact Control.le_through c [.reach l]
    | call _ _ => exact .refl c
    | log _ => exact .refl c

theorem Lifecycle.foldl_later_mem (a : Lifecycle) (ls : List Lifecycle) :
    ls.foldl later a ∈ a :: ls := by
  induction ls generalizing a with
  | nil => exact List.mem_singleton_self a
  | cons l ls ih =>
    rcases List.mem_cons.mp (ih (a.later l)) with h | h
    · rw [List.foldl_cons, h]
      rcases later_eq_or a l with hl | hl
      · rw [hl]
        exact List.mem_cons_self
      · rw [hl]
        exact List.mem_cons_of_mem a List.mem_cons_self
    · exact List.mem_cons_of_mem a (List.mem_cons_of_mem l h)

/-- Where the states go up, the latest is the last. -/
theorem Lifecycle.foldl_later_eq {a : Lifecycle} {ls : List Lifecycle}
    (h : (a :: ls).Pairwise fun l l' => l.rank < l'.rank) : ls.foldl later a = ls.getLastD a := by
  induction ls generalizing a with
  | nil => rfl
  | cons l ls ih =>
    obtain ⟨ha, hls⟩ := List.pairwise_cons.mp h
    have hl : a.later l = l := if_pos (ha l List.mem_cons_self)
    rw [List.foldl_cons, hl, ih hls, List.getLastD_cons]

/-! ## silent plays -/

variable [Display α σ]

namespace Play

def Silently (p : β → Prop) (m : Play α σ β) : Prop :=
  ∀ s, m.Ends s (fun es => reachedIn es = []) fun v es => p v ∧ reachedIn es = []

abbrev Silent (m : Play α σ β) : Prop := m.Silently fun _ => True

namespace Silently

variable {p : β → Prop} {q : γ → Prop}

theorem pure {v : β} (h : p v) : Silently p (pure v : Play α σ β) := fun _ => .pure ⟨h, rfl⟩

theorem bind {m : Play α σ β} {f : β → Play α σ γ} (h : m.Silently p)
    (hf : ∀ v, p v → (f v).Silently q) : (m >>= f).Silently q := by
  intro s
  refine (h s).bind (fun _ _ h => h) fun v es s' _ ⟨hv, hes⟩ => ?_
  have happend : ∀ fs, reachedIn fs = [] → reachedIn (es ++ fs) = [] := by
    intro fs hfs
    rw [reachedIn_append, hes, hfs]
    rfl
  exact (hf v hv s').mono (fun fs _ => happend fs) fun _ fs => .imp_right (happend fs)

theorem get {f : Session α σ → Play α σ γ} (h : ∀ s, (f s).Silently q) :
    Silently q (MonadState.get >>= f : Play α σ γ) := fun s => .get (h s s)

end Silently
end Play

open Play

theorem silent_perform (c : Call α) : (perform c : Play α σ c.Reply).Silent := by
  intro s
  have hevents := reachedIn_callEvents c (Display.step c s.display).1
  unfold Ends
  cases h : (Display.step c s.display).1.reply with
  | none =>
    rw [outcome_perform_none h]
    refine ⟨_, s.plays_afterCall c, ⟨c, ?_⟩, hevents⟩
    rw [callEvents, h]
    exact List.mem_cons_self
  | some v =>
    rw [outcome_perform_some h]
    exact ⟨_, s.plays_afterCall c, trivial, hevents⟩

theorem silent_log (level : Level) (message : String) :
    (log level message : Play α σ Unit).Silent := by
  intro s
  have hr : (log level message).Returns s fun _ es _ => reachedIn es = [] :=
    .modify [.log ⟨level, message⟩] ⟨by simp [Session.record], rfl, rfl⟩ rfl
  exact .of_ok hr ⟨(), rfl⟩ fun _ _ _ hes => ⟨trivial, hes⟩

theorem silent_request (r : Requests) : (request r : Play α σ Unit).Silent := fun s =>
  (ends_request r s).mono (fun _ _ h => h) fun _ _ hes =>
    ⟨trivial, hes ▸ reachedIn_requestEvents r⟩

theorem silent_holdLease (f : Lease → Lease) : (holdLease f : Play α σ Unit).Silent := fun s =>
  .of_ok (returns_holdLease f s) ⟨(), rfl⟩ fun _ _ _ hes => ⟨trivial, hes.1 ▸ rfl⟩

theorem closed_silent : Closed (fun _ (m : Play α σ _) => m.Silent) fun _ => True where
  pure _ := .pure trivial
  bind hm hf := hm.bind fun v _ => hf v
  get := .get
  log := silent_log
  perform c _ := silent_perform c

theorem silent_acquire (w : WindowId) :
    (acquire w : Play α σ (Except DisplayError Unit)).Silent :=
  closed_acquire closed_silent (fun _ _ => trivial) silent_holdLease w

theorem silent_release : (release : Play α σ Unit).Silent :=
  closed_release closed_silent (fun _ _ => trivial) silent_holdLease

/-! ## the outline of a run -/

/-- What is published until a run is taken down. -/
def Exit.begun : Exit → List Lifecycle
  | .initFailed _ => [.preparing]
  | .stopped | .presentFailed _ | .contextLost _ => [.preparing, .running]

/-- The run came to its frames. -/
def Exit.Began (e : Exit) : Prop := e.begun = [.preparing, .running]

theorem Exit.ascending (e : Exit) :
    (.created :: (e.begun ++ [.draining] ++ [.terminated])).Pairwise
      fun l l' => l.rank < l'.rank := by
  cases e <;> simp [begun, Lifecycle.rank]

theorem Exit.lt_draining (e : Exit) :
    ∀ l ∈ .created :: e.begun, l.rank < Lifecycle.draining.rank := by
  cases e <;> simp [begun, Lifecycle.rank]

theorem Exit.lt_terminated (e : Exit) :
    ∀ l ∈ .created :: (e.begun ++ [.draining]), l.rank < Lifecycle.terminated.rank := by
  cases e <;> simp [begun, Lifecycle.rank]

variable [Scalar α]

theorem silent_prepare (r : Renderer α) :
    (r.prepare : Play α σ (Except DisplayError (Scene α))).Silent :=
  closed_prepare closed_silent (fun _ _ => trivial) (silent_acquire _)

variable [Trig α]

theorem silent_frames (ticks : List Tick) (scene : Scene α) :
    (frames ticks scene : Play α σ Exit).Silently Exit.Began := by
  induction ticks generalizing scene with
  | nil => exact (silent_request _).bind fun _ _ => .pure rfl
  | cons t ticks ih =>
    refine (silent_request _).bind fun _ _ => .get fun s => ?_
    cases s.control.requests.stop with
    | true => exact .pure rfl
    | false =>
      refine (closed_ensureCurrent closed_silent fun _ _ => trivial).bind fun r _ => ?_
      cases r with
      | error e => exact .pure rfl
      | ok _ =>
        refine (closed_drawFrame closed_silent (fun _ => trivial) scene t.elapsed).bind ?_
        refine fun scene' _ => ?_
        refine (closed_present closed_silent fun _ _ => trivial).bind fun r _ => ?_
        cases r with
        | error e => exact .pure rfl
        | ok _ => exact ih scene'

omit [Scalar α] [Trig α] in
/-- A state is published if it is later than the one before. -/
theorem ends_reach (state : Lifecycle) (s : Session α σ) {R : List (Event α) → Prop} :
    (reach state).Ends s R fun _ es =>
      reachedIn es = if s.control.state.rank < state.rank then [state] else [] := by
  obtain ⟨es, s', ho, hp, -, -, hes⟩ := outcome_reach state s
  unfold Ends
  rw [ho]
  refine ⟨es, hp, ?_⟩
  split at hes
  · next hlt =>
    obtain ⟨record, rfl⟩ := hes
    exact (if_pos hlt).symm
  · next hle =>
    rw [hes]
    exact (if_neg hle).symm

omit [Scalar α] [Trig α] in
/-- A state that is later than all before. -/
theorem ends_reach_later {state : Lifecycle} {s s' : Session α σ} {es : List (Event α)}
    {R : List (Event α) → Prop} (hs : s.control.state = .created) (hp : s.Plays es s')
    (hl : ∀ l ∈ Lifecycle.created :: reachedIn es, l.rank < state.rank) :
    (reach state).Ends s' R fun _ fs => reachedIn (es ++ fs) = reachedIn es ++ [state] := by
  have hlt : s'.control.state.rank < state.rank := by
    rw [hp.control, Control.state_after, hs]
    exact hl _ (Lifecycle.foldl_later_mem _ _)
  refine (ends_reach state s').mono (fun _ _ h => h) fun _ fs hfs => ?_
  rw [if_pos hlt] at hfs
  rw [reachedIn_append, hfs]

/-- The states of a run that a crash cuts short, by then. -/
def Halted (es : List (Event α)) : Prop :=
  [.preparing] <+: reachedIn es ∧
    ∃ exit : Exit, reachedIn es <+: exit.begun ++ [.draining] ++ [.terminated]

omit [Display α σ] [Scalar α] [Trig α] in
theorem halted_of_eq {es : List (Event α)} {ls : List Lifecycle} (exit : Exit)
    (later : List Lifecycle) (h : reachedIn es = .preparing :: ls)
    (hl : .preparing :: ls ++ later = exit.begun ++ [.draining] ++ [.terminated]) : Halted es :=
  ⟨⟨ls, h.symm⟩, exit, later, h ▸ hl⟩

omit [Display α σ] [Scalar α] [Trig α] in
theorem Exit.begun_eq (e : Exit) : ∃ ls, e.begun = .preparing :: ls := by
  cases e <;> exact ⟨_, rfl⟩

theorem ends_work_states (r : Renderer α) (ticks : List Tick) (s : Session α σ)
    (hs : s.control.state = .created) :
    (r.work ticks).Ends s Halted fun exit es => reachedIn es = exit.begun := by
  have hreach : (reach .preparing).Ends s (fun _ => False) fun _ es =>
      reachedIn es = [.preparing] :=
    ends_reach_later hs (.refl s) (by simp [reachedIn, Lifecycle.rank])
  refine hreach.bind (fun _ _ h => h.elim) fun _ es₁ s₁ hp₁ h₁ => ?_
  have h₁₂ : ∀ es₂, reachedIn es₂ = [] → reachedIn (es₁ ++ es₂) = [.preparing] := by
    intro es₂ h₂
    rw [reachedIn_append, h₁, h₂]
    rfl
  refine (silent_prepare r s₁).bind (fun es₂ _ h₂ => ?_) fun result es₂ s₂ hp₂ ⟨_, h₂⟩ => ?_
  · exact halted_of_eq .stopped [.running, .draining, .terminated] (h₁₂ es₂ h₂) rfl
  cases result with
  | error e => exact .pure (by rw [List.append_nil]; exact h₁₂ es₂ h₂)
  | ok scene =>
    have hreach : (reach .running).Ends s₂ (fun _ => False) fun _ es =>
        reachedIn (es₁ ++ es₂ ++ es) = reachedIn (es₁ ++ es₂) ++ [.running] :=
      ends_reach_later hs (hp₁.trans hp₂) (by simp [h₁₂ es₂ h₂, Lifecycle.rank])
    refine hreach.bind (fun _ _ h => h.elim) fun _ es₃ s₃ hp₃ h₃ => ?_
    have h₁₄ : ∀ es₄, reachedIn es₄ = [] →
        reachedIn (es₁ ++ (es₂ ++ (es₃ ++ es₄))) = [.preparing, .running] := by
      intro es₄ h₄
      rw [← List.append_assoc, ← List.append_assoc, reachedIn_append, h₃, h₁₂ es₂ h₂, h₄]
      rfl
    refine (silent_frames ticks scene s₃).mono (fun es₄ _ h₄ => ?_) fun exit es₄ ⟨hb, h₄⟩ => ?_
    · exact halted_of_eq .stopped [.draining, .terminated] (h₁₄ es₄ h₄) rfl
    · exact (h₁₄ es₄ h₄).trans hb.symm

theorem ends_live_states (r : Renderer α) (ticks : List Tick) (s : Session α σ)
    (hs : s.control.state = .created) :
    (r.live ticks).Ends s Halted fun exit es =>
      reachedIn es = exit.begun ++ [.draining] ++ [.terminated] := by
  refine (ends_work_states r ticks s hs).bind (fun _ _ h => h) fun exit es₁ s₁ hp₁ h₁ => ?_
  obtain ⟨ls, hls⟩ := exit.begun_eq
  have hdraining : (reach .draining).Ends s₁ (fun _ => False) fun _ es =>
      reachedIn (es₁ ++ es) = reachedIn es₁ ++ [.draining] :=
    ends_reach_later hs hp₁ (h₁ ▸ exit.lt_draining)
  refine hdraining.bind (fun _ _ h => h.elim) fun _ es₂ s₂ hp₂ h₂ => ?_
  have h₁₃ : ∀ es₃, reachedIn es₃ = [] →
      reachedIn (es₁ ++ (es₂ ++ es₃)) = exit.begun ++ [.draining] := by
    intro es₃ h₃
    rw [← List.append_assoc, reachedIn_append, h₂, h₁, h₃, List.append_nil]
  refine (silent_release s₂).bind (fun es₃ _ h₃ => ?_) fun _ es₃ s₃ hp₃ ⟨_, h₃⟩ => ?_
  · have hes := (h₁₃ es₃ h₃).trans (congrArg (· ++ [Lifecycle.draining]) hls)
    exact halted_of_eq exit [.terminated] hes (by rw [hls]; rfl)
  have hterminated : (reach .terminated).Ends s₃ (fun _ => False) fun _ es =>
      reachedIn (es₁ ++ (es₂ ++ es₃) ++ es) = reachedIn (es₁ ++ (es₂ ++ es₃)) ++ [.terminated] :=
    ends_reach_later hs (hp₁.trans (hp₂.trans hp₃)) (by rw [h₁₃ es₃ h₃]; exact exit.lt_terminated)
  refine hterminated.bind (fun _ _ h => h.elim) fun _ es₄ s₄ hp₄ h₄ => ?_
  have h₁₅ : ∀ es₅, reachedIn es₅ = [] → reachedIn (es₁ ++ (es₂ ++ (es₃ ++ (es₄ ++ es₅)))) =
      exit.begun ++ [.draining] ++ [.terminated] := by
    intro es₅ h₅
    rw [h₁₃ es₃ h₃] at h₄
    rw [← h₄, ← List.append_nil (reachedIn (_ ++ es₄)), ← h₅, ← reachedIn_append]
    simp only [List.append_assoc]
  -- what follows is silent, and may still crash
  have hrest : (do log .info ("Render thread finished: " ++ exit.text); release; return exit :
      Play α σ Exit).Silently (· = exit) :=
    (silent_log _ _).bind fun _ _ => silent_release.bind fun _ _ => .pure rfl
  refine (hrest s₄).mono (fun es₅ _ h₅ => ?_) fun exit' es₅ ⟨he, h₅⟩ => ?_
  · have hes := (h₁₅ es₅ h₅).trans (congrArg (· ++ [Lifecycle.draining] ++ [.terminated]) hls)
    exact halted_of_eq exit [] hes (by rw [hls, List.append_nil]; rfl)
  · rw [he]
    exact h₁₅ es₅ h₅

/-- The states of a run that a crash has ended: it was at some point of its outline, and then it
counts as terminated. -/
def Aborted (ls : List Lifecycle) : Prop :=
  ∃ (exit : Exit) (mid : List Lifecycle), [.preparing] <+: mid ∧ mid <+: exit.begun ++ [.draining] ∧
    ls = mid ++ [.terminated]

omit [Scalar α] [Trig α] in
/-- The way down after a crash. -/
theorem ends_down_states {s s' : Session α σ} {es : List (Event α)}
    (hs : s.control.state = .created) (hp : s.Plays es s') (h : Halted es) :
    (do reach .terminated; release : Play α σ Unit).Ends s'
      (fun fs => Aborted (reachedIn (es ++ fs))) fun _ fs => Aborted (reachedIn (es ++ fs)) := by
  obtain ⟨hfirst, exit, hpre⟩ := h
  have hreach : (reach .terminated).Ends s' (fun _ => False) fun _ fs =>
      Aborted (reachedIn (es ++ fs)) := by
    rcases List.prefix_concat_iff.mp hpre with hall | hpart
    · -- the last release crashed: the state is terminated already
      have hlast : s'.control.state = .terminated := by
        rw [hp.control, Control.state_after, hs, hall, Lifecycle.foldl_later_eq exit.ascending,
          List.getLastD_concat]
      refine (ends_reach .terminated s').mono (fun _ _ h => h) fun _ fs hfs => ?_
      rw [hlast, if_neg (Nat.lt_irrefl _)] at hfs
      obtain ⟨ls, hls⟩ := exit.begun_eq
      refine ⟨exit, exit.begun ++ [.draining], ⟨ls ++ [.draining], ?_⟩, List.prefix_rfl, ?_⟩
      · rw [hls]
        rfl
      · rw [reachedIn_append, hfs, List.append_nil, hall]
    · have hlt : ∀ l ∈ .created :: reachedIn es, l.rank < Lifecycle.terminated.rank :=
        fun l hl => exit.lt_terminated l (List.cons_subset_cons _ hpart.subset hl)
      exact (ends_reach_later hs hp hlt).mono (fun _ _ h => h) fun _ fs hfs =>
        ⟨exit, _, hfirst, hpart, hfs⟩
  refine hreach.bind (fun _ _ h => h.elim) fun _ fs s'' _ hfs => ?_
  have hsame : ∀ gs, reachedIn gs = [] → Aborted (reachedIn (es ++ (fs ++ gs))) := by
    intro gs hgs
    rw [← List.append_assoc, reachedIn_append, hgs, List.append_nil]
    exact hfs
  exact (silent_release s'').mono (fun gs _ => hsame gs) fun _ gs hgs => hsame gs hgs.2

theorem ends_run_states (r : Renderer α) (ticks : List Tick) (s : Session α σ)
    (hs : s.control.state = .created) :
    (r.run ticks).Ends s (fun es => Aborted (reachedIn es)) fun exit es =>
      reachedIn es = exit.begun ++ [.draining] ++ [.terminated] :=
  .tryCatch (ends_live_states r ticks s hs) fun _ _ hp h => ends_down_states hs hp h

/-- **The states of a run**, from a fresh session on. -/
theorem life_states (r : Renderer α) (before : Requests) (ticks : List Tick) (display : σ) :
    match (r.life before ticks display).1 with
    | .ok exit => (r.life before ticks display).2.states =
        exit.begun ++ [.draining] ++ [.terminated]
    | .error _ => Aborted (r.life before ticks display).2.states := by
  have hends : Play.Ends (do request before; r.run ticks) (.ofDisplay display)
      (fun es => Aborted (reachedIn es))
      fun exit es => reachedIn es = exit.begun ++ [.draining] ++ [.terminated] := by
    refine (ends_request before _ (R := fun _ => False)).bind (fun _ _ h => h.elim) ?_
    rintro _ _ s hp rfl
    have hs : s.control.state = .created := by
      rw [hp.control, Control.state_after, reachedIn_requestEvents]
      rfl
    have hsame : ∀ es : List (Event α), reachedIn (requestEvents before ++ es) = reachedIn es := by
      intro es
      rw [reachedIn_append, reachedIn_requestEvents, List.nil_append]
    refine (ends_run_states r ticks s hs).mono (fun es _ h => ?_) fun exit es h => ?_
    · rw [hsame]
      exact h
    · rw [hsame]
      exact h
  obtain ⟨es, hp, hr⟩ := hends
  have htrace : (r.life before ticks display).2.trace.toList = es := hp.trace
  rw [Session.states_eq, htrace]
  unfold Renderer.life
  split at hr
  · next h => rw [h]; exact hr
  · next h => rw [h]; exact hr.2

theorem life_control (r : Renderer α) (before : Requests) (ticks : List Tick) (display : σ) :
    (r.life before ticks display).2.control =
      Control.initial.after (r.life before ticks display).2.trace.toList := by
  obtain ⟨es, hp, -⟩ := returns_life r before ticks display
  have htrace : (r.life before ticks display).2.trace.toList = es := hp.trace
  rw [htrace]
  exact hp.control

/-! ## the laws -/

/-- A state is published only after all earlier ones. -/
theorem life_ascending (r : Renderer α) (before : Requests) (ticks : List Tick) (display : σ) :
    (.created :: (r.life before ticks display).2.states).Pairwise fun l l' => l.rank < l'.rank := by
  have h := life_states r before ticks display
  split at h
  · rw [h]
    exact Exit.ascending _
  · obtain ⟨exit, mid, -, hmid, heq⟩ := h
    rw [heq]
    exact exit.ascending.sublist ((hmid.sublist.append_right _).cons_cons _)

omit [Display α σ] in
theorem Loop.began {d : DisplayId} {b : Binding} {ticks : List Tick} {c : Control} {scene : Scene α}
    {seen : List Bool} {es : List (Event α)} {exit : Exit}
    (h : Loop d b ticks c scene seen es exit) : exit.Began := by
  induction h with
  | finished | stopped _ | lost _ _ _ | unpresented _ _ _ => rfl
  | frame _ _ _ _ ih => exact ih

/-- What the observers of a renderer see in a run of it. -/
structure Renderer.Shown (r : Renderer α) (before : Requests) (ticks : List Tick) (display : σ) :
    Prop where
  /-- the states of a run that returns, by how it came to its end -/
  exited : ∀ exit, (r.life before ticks display).1 = .ok exit →
    (r.life before ticks display).2.states = exit.begun ++ [.draining] ++ [.terminated]
  /-- where no call crashes, the acquisition decides whether the run counts as running -/
  returned : Crashed (r.life before ticks display).2.trace.toList ∨
    (∃ e acq rest l, (r.life before ticks display).1 = .ok (.initFailed e) ∧
      (r.life before ticks display).2.trace.toList = requestEvents before ++ (acq ++ rest) ∧
      Acquisition r.window .empty (exchanges acq) (.error e) l ∧
      (r.life before ticks display).2.states = [.preparing, .draining, .terminated]) ∨
    ∃ exit h acq rest, (r.life before ticks display).1 = .ok exit ∧
      (r.life before ticks display).2.trace.toList = requestEvents before ++ (acq ++ rest) ∧
      exchanges acq = Handles.steps h r.window ∧
      (r.life before ticks display).2.states = [.preparing, .running, .draining, .terminated]
  crashed : ∀ c, (r.life before ticks display).1 = .error c →
    Aborted (r.life before ticks display).2.states
  control : (r.life before ticks display).2.control =
    Control.initial.after (r.life before ticks display).2.trace.toList
  /-- at any time the state is the one that was published last -/
  observed : ∀ es later, (r.life before ticks display).2.trace.toList = es ++ later →
    (Control.initial.after es).state = (reachedIn es).getLastD .created
  grows : ∀ es later, (r.life before ticks display).2.trace.toList = es ++ later →
    ∀ fs, fs <+: es → (Control.initial.after fs).Grows (Control.initial.after es)

theorem Renderer.shown (r : Renderer α) (before : Requests) (ticks : List Tick) (display : σ) :
    r.Shown before ticks display where
  exited exit he := by
    have hstates := life_states r before ticks display
    rw [he] at hstates
    exact hstates
  returned := by
    have hstates := life_states r before ticks display
    refine (life_cases r before ticks display).imp_right ?_
    rintro ⟨exit, es, hexit, htrace, work, down, l, rfl, hwork, -⟩
    rw [hexit] at hstates
    cases hwork with
    | refused ha => exact .inl ⟨_, work, down, _, hexit, htrace, ha, hstates⟩
    | @ran acq prep loop exit h texture seen ha hp hl =>
      refine .inr ⟨exit, h, acq, prep ++ loop ++ down, hexit, ?_, ha, ?_⟩
      · rw [htrace]
        simp only [List.append_assoc]
      · rw [hstates, hl.began]
        rfl
  crashed c hc := by
    have hstates := life_states r before ticks display
    rw [hc] at hstates
    exact hstates
  control := life_control r before ticks display
  observed es later he := by
    have hup := life_ascending r before ticks display
    rw [Session.states_eq, he, reachedIn_append] at hup
    have hes : (.created :: reachedIn es).Pairwise fun l l' => l.rank < l'.rank :=
      hup.sublist ((List.sublist_append_left _ _).cons_cons _)
    rw [Control.state_after]
    exact Lifecycle.foldl_later_eq hes
  grows es _ _ fs hfs := by
    obtain ⟨gs, rfl⟩ := hfs
    rw [Control.after_append]
    exact Control.grows_after _ gs

structure ControlLaws : Prop where
  /-- for all who hold controls, in any history -/
  shared : ∀ as, ControlPool.Proper as → ControlPool.SharingLaws as
  run : ∀ {α σ : Type} [Scalar α] [Trig α] [Display α σ] (r : Renderer α) (before : Requests)
    (ticks : List Tick) (display : σ), r.Shown before ticks display

/-- **Controls only grow, and clones share them.**  What a control shows is the join of all that its
kin were told; and a renderer passes through its states in their order. -/
theorem controlLaws : ControlLaws where
  shared _ h := ControlPool.sharing h
  run r before ticks display := r.shown before ticks display

end FireflyOverlay
