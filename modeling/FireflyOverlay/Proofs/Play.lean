import FireflyOverlay.Proofs.Trace
import FireflyOverlay.Lease

/-!
# Plays, step by step

What a play does is said by one judgement, from which the laws of whole plays are put together.

* `Play.outcome`      the result of a play and the session that it leaves;
* `Play.Returns`      `m.Returns s Q`: from `s` the play `m` adds some stretch `es` to the trace,
                      and either a call of `es` crashed, or `m` returns a value `v` in a session
                      `s'` with `Q v es s'`;
* `Returns.bind`      two plays one after the other: their stretches are put together;
* `returns_perform`, `returns_performAll`, `returns_log`, `returns_reach`, `returns_request`,
  `returns_holdLease`   the primitive steps;
* `Attempt.Returns`   the same for steps that may also fail for a cause.
-/

namespace FireflyOverlay

variable {α σ β γ : Type} [Display α σ]

namespace Play

def outcome (m : Play α σ β) (s : Session α σ) : Except Crash β × Session α σ := m.run s

def Returns (m : Play α σ β) (s : Session α σ)
    (Q : β → List (Event α) → Session α σ → Prop) : Prop :=
  ∃ es, s.Plays es (m.outcome s).2 ∧
    match (m.outcome s).1 with
    | .ok v => Q v es (m.outcome s).2
    | .error _ => Crashed es

omit [Display α σ] in
theorem outcome_bind (m : Play α σ β) (f : β → Play α σ γ) (s : Session α σ) :
    (m >>= f).outcome s = match m.outcome s with
      | (.ok v, s') => (f v).outcome s'
      | (.error e, s') => (.error e, s') := by
  show ExceptT.bindCont f (m.outcome s).1 (m.outcome s).2 = _
  rcases m.outcome s with ⟨_ | v, s'⟩ <;> rfl

omit [Display α σ] in
theorem outcome_tryCatch (m : Play α σ β) (handle : Crash → Play α σ β) (s : Session α σ) :
    (tryCatch m handle).outcome s = match m.outcome s with
      | (.ok v, s') => (.ok v, s')
      | (.error e, s') => (handle e).outcome s' := by
  unfold outcome
  simp only [tryCatch, tryCatchThe, MonadExceptOf.tryCatch, ExceptT.tryCatch, ExceptT.run,
    ExceptT.mk, bind, StateT.bind]
  rcases m s with ⟨_ | v, s'⟩ <;> rfl

namespace Returns

variable {s : Session α σ} {Q : β → List (Event α) → Session α σ → Prop}

theorem mono {m : Play α σ β} {Q' : β → List (Event α) → Session α σ → Prop}
    (h : m.Returns s Q) (hQ : ∀ v es s', s.Plays es s' → Q v es s' → Q' v es s') :
    m.Returns s Q' := by
  obtain ⟨es, hp, hr⟩ := h
  refine ⟨es, hp, ?_⟩
  split at hr
  · next v e => exact hQ v es _ hp hr
  · exact hr

/-- The stretch of a play leads from its first session to its last. -/
theorem plays {m : Play α σ β} (h : m.Returns s Q) :
    m.Returns s fun v es s' => s.Plays es s' ∧ Q v es s' :=
  h.mono fun _ _ _ hp hv => ⟨hp, hv⟩

/-- From an empty trace the whole trace is the stretch of the play. -/
theorem of_empty {m : Play α σ β} (h : m.Returns s Q) (hs : s.trace = #[]) :
    Crashed (m.outcome s).2.trace.toList ∨
      ∃ v, (m.outcome s).1 = .ok v ∧ Q v (m.outcome s).2.trace.toList (m.outcome s).2 := by
  obtain ⟨es, hp, hr⟩ := h
  have he : (m.outcome s).2.trace.toList = es := by rw [hp.trace, hs]; rfl
  rw [he]
  cases hm : (m.outcome s).1 with
  | error e => rw [hm] at hr; exact .inl hr
  | ok v => rw [hm] at hr; exact .inr ⟨v, rfl, hr⟩

/-- Whatever happens, the display answers the trace. -/
theorem answers {m : Play α σ β} (h : m.Returns s Q) (hs : s.trace = #[]) :
    Answers s.display (m.outcome s).2.trace.toList (m.outcome s).2.display := by
  obtain ⟨es, hp, -⟩ := h
  have he : (m.outcome s).2.trace.toList = es := by rw [hp.trace, hs]; rfl
  rw [he]
  exact hp.display

theorem pure {v : β} (h : Q v [] s) : Returns (pure v) s Q := ⟨[], .refl s, h⟩

theorem bind {m : Play α σ β} {f : β → Play α σ γ}
    {R : γ → List (Event α) → Session α σ → Prop} (h : m.Returns s Q)
    (hf : ∀ v es s', Q v es s' → (f v).Returns s' fun w fs s'' => R w (es ++ fs) s'') :
    (m >>= f).Returns s R := by
  obtain ⟨es, hp, hr⟩ := h
  unfold Returns
  rw [outcome_bind]
  rcases hm : m.outcome s with ⟨_ | v, s'⟩
  · rw [hm] at hp hr
    exact ⟨es, hp, hr⟩
  · rw [hm] at hp hr
    obtain ⟨fs, hp', hr'⟩ := hf v es s' hr
    refine ⟨es ++ fs, hp.trans hp', ?_⟩
    show match ((f v).outcome s').1 with | .ok w => R w (es ++ fs) _ | .error _ => _
    cases hw : ((f v).outcome s').1 with
    | ok w => rw [hw] at hr'; exact hr'
    | error e => rw [hw] at hr'; exact hr'.append_right

/-- One change of the session, told by the stretch `es`. -/
theorem modify {f : Session α σ → Session α σ} {Q : Unit → List (Event α) → Session α σ → Prop}
    (es : List (Event α)) (hp : s.Plays es (f s)) (h : Q () es (f s)) :
    Returns (modify f : Play α σ Unit) s Q := ⟨es, hp, h⟩

theorem get {f : Session α σ → Play α σ γ} {R : γ → List (Event α) → Session α σ → Prop}
    (h : (f s).Returns s R) : Returns (MonadState.get >>= f : Play α σ γ) s R := h

/-- A play that ends in a crash, whatever it did before. -/
def Fails (m : Play α σ β) (s : Session α σ) : Prop :=
  ∃ es, s.Plays es (m.outcome s).2 ∧ ∃ e, (m.outcome s).1 = .error e

theorem andThrow {m : Play α σ Unit} {Q : Unit → List (Event α) → Session α σ → Prop}
    (h : m.Returns s Q) (e : Crash) : Fails (do m; throw e : Play α σ β) s := by
  obtain ⟨es, hp, -⟩ := h
  unfold Fails
  rw [outcome_bind]
  rcases hm : m.outcome s with ⟨e' | v, s'⟩
  · rw [hm] at hp
    exact ⟨es, hp, e', rfl⟩
  · rw [hm] at hp
    exact ⟨es, hp, e, rfl⟩

/-- A handler that throws again does not hide the crash. -/
theorem tryCatch {m : Play α σ β} {handle : Crash → Play α σ β} (h : m.Returns s Q)
    (hh : ∀ e s', Fails (handle e) s') : Returns (tryCatch m handle) s Q := by
  obtain ⟨es, hp, hr⟩ := h
  unfold Returns
  rw [outcome_tryCatch]
  rcases hm : m.outcome s with ⟨e | v, s'⟩
  · rw [hm] at hp hr
    obtain ⟨fs, hp', e', he⟩ := hh e s'
    refine ⟨es ++ fs, hp.trans hp', ?_⟩
    show match ((handle e).outcome s').1 with | .ok w => _ | .error _ => _
    rw [he]
    exact Crashed.append_left hr
  · rw [hm] at hp hr
    exact ⟨es, hp, hr⟩

end Returns

end Play

/-! ## the primitive steps -/

open Play

/-- The events of a call: its answer, what it logs, and the requests that arrive meanwhile. -/
def callEvents (c : Call α) (r : Reaction c.Reply) : List (Event α) :=
  [.call c r.reply] ++ r.logs.map .log ++ requestEvents r.requests

/-- The display has taken its step, and the answer is written down. -/
def Session.answered (s : Session α σ) (c : Call α) : Session α σ :=
  { s with display := (Display.step c s.display).2 }.record
    (.call c (Display.step c s.display).1.reply)

def Session.afterCall (s : Session α σ) (c : Call α) : Session α σ :=
  ((s.answered c).recordLogs (Display.step c s.display).1.logs).receive
    (Display.step c s.display).1.requests

theorem Session.plays_answered (s : Session α σ) (c : Call α) :
    s.Plays [.call c (Display.step c s.display).1.reply] (s.answered c) :=
  ⟨by simp [answered, record], rfl, rfl, rfl⟩

theorem Session.plays_recordLogs (s : Session α σ) (rs : List LogRecord) :
    s.Plays (rs.map .log) (s.recordLogs rs) :=
  ⟨by simp [recordLogs], (Control.after_logs _ _).symm, answers_logs _ _⟩

theorem Session.plays_afterCall (s : Session α σ) (c : Call α) :
    s.Plays (callEvents c (Display.step c s.display).1) (s.afterCall c) :=
  ((s.plays_answered c).trans ((s.answered c).plays_recordLogs _)).trans (Session.plays_receive _ _)

theorem Session.lease_afterCall (s : Session α σ) (c : Call α) :
    (s.afterCall c).lease = s.lease := Session.lease_receive _ _

theorem exchanges_callEvents (c : Call α) (r : Reaction c.Reply) (v : c.Reply)
    (h : r.reply = some v) : exchanges (callEvents c r) = [⟨c, v⟩] := by
  rw [callEvents, exchanges_append, exchanges_append, exchanges_logs, exchanges_requestEvents, h]
  rfl

theorem outcome_perform_none {c : Call α} {s : Session α σ}
    (h : (Display.step c s.display).1.reply = none) :
    (perform c).outcome s = (.error .crash, s.afterCall c) := by
  show perform c s = _
  unfold perform
  simp only [Session.afterCall, Session.answered, h]

theorem outcome_perform_some {c : Call α} {s : Session α σ} {v : c.Reply}
    (h : (Display.step c s.display).1.reply = some v) :
    (perform c).outcome s = (.ok v, s.afterCall c) := by
  show perform c s = _
  unfold perform
  simp only [Session.afterCall, Session.answered, h]

theorem returns_performFirst (c : Call α) (s : Session α σ) :
    (perform c).Returns s fun v es s' =>
      StartsWith c es ∧ exchanges es = [⟨c, v⟩] ∧ s'.lease = s.lease := by
  unfold Returns
  cases h : (Display.step c s.display).1.reply with
  | none =>
    rw [outcome_perform_none h]
    exact ⟨_, s.plays_afterCall c, c, by rw [callEvents, h]; exact List.mem_cons_self⟩
  | some v =>
    rw [outcome_perform_some h]
    refine ⟨_, s.plays_afterCall c, ?_, exchanges_callEvents c _ v h, s.lease_afterCall c⟩
    rw [callEvents, h]
    exact ⟨v, _, rfl⟩

/-- One call and its answer, and the lease stays as it is. -/
theorem returns_perform (c : Call α) (s : Session α σ) :
    (perform c).Returns s fun v es s' => exchanges es = [⟨c, v⟩] ∧ s'.lease = s.lease :=
  (returns_performFirst c s).mono fun _ _ _ _ h => h.2

/-- The calls of a list of draw calls; their answers say nothing. -/
def Draws (cs : List (DrawCall α)) (es : List (Event α)) : Prop :=
  (exchanges es).map Exchange.call = cs.map Call.draw

def AllDraws (xs : List (Exchange α)) : Prop := ∀ x ∈ xs, x.call.isDraw = true

theorem allDraws_of_map {xs : List (Exchange α)} {cs : List (DrawCall α)}
    (h : xs.map Exchange.call = cs.map Call.draw) : AllDraws xs := by
  intro x hx
  have hm : x.call ∈ xs.map Exchange.call := List.mem_map_of_mem hx
  rw [h] at hm
  obtain ⟨c, -, hc⟩ := List.mem_map.mp hm
  rw [← hc]
  rfl

theorem Draws.allDraws {cs : List (DrawCall α)} {es : List (Event α)} (h : Draws cs es) :
    AllDraws (exchanges es) := allDraws_of_map h

theorem AllDraws.append {xs ys : List (Exchange α)} (hx : AllDraws xs) (hy : AllDraws ys) :
    AllDraws (xs ++ ys) := List.forall_mem_append.mpr ⟨hx, hy⟩

theorem AllDraws.acts {es : List (Event α)} (h : AllDraws (exchanges es)) :
    AllDraws (FireflyOverlay.acts es) := fun x hx => h x (List.mem_filter.mp hx).1

theorem returns_performAll (cs : List (DrawCall α)) (s : Session α σ) :
    (performAll cs).Returns s fun _ es s' => Draws cs es ∧ s'.lease = s.lease := by
  induction cs generalizing s with
  | nil => exact .pure ⟨rfl, rfl⟩
  | cons c cs ih =>
    refine (returns_perform (.draw c) s).bind fun v es s' h => (ih s').mono ?_
    intro _ fs s'' _ h'
    refine ⟨?_, h'.2.trans h.2⟩
    show (exchanges (es ++ fs)).map _ = _
    rw [exchanges_append, List.map_append, h.1, h'.1]
    rfl

theorem returns_log (level : Level) (message : String) (s : Session α σ) :
    (log level message).Returns s fun _ es s' => exchanges es = [] ∧ s'.lease = s.lease :=
  .modify [.log ⟨level, message⟩] ⟨by simp [Session.record], rfl, rfl⟩ ⟨rfl, rfl⟩

theorem returns_request (r : Requests) (s : Session α σ) :
    (request r).Returns s fun _ es s' => es = requestEvents r ∧ s'.lease = s.lease :=
  .modify _ (s.plays_receive r) ⟨rfl, s.lease_receive r⟩

theorem returns_holdLease (f : Lease → Lease) (s : Session α σ) :
    (holdLease f).Returns s fun _ es s' => es = [] ∧ s'.lease = f s.lease :=
  .modify [] ⟨by simp, rfl, rfl⟩ ⟨rfl, rfl⟩

/-- A state is published if it is later than the one before. -/
theorem outcome_reach (state : Lifecycle) (s : Session α σ) :
    ∃ es s', (reach state).outcome s = (.ok (), s') ∧ s.Plays es s' ∧ s'.lease = s.lease ∧
      state.rank ≤ s'.control.state.rank ∧
      if s.control.state.rank < state.rank then ∃ record, es = [.log record, .state state]
      else es = [] := by
  by_cases h : s.control.state.rank < state.rank
  · let message := s!"Render thread {s.control.state.name} -> {state.name}"
    let published := ({ s with control := s.control.reach state }.record
      (.log ⟨.debug, message⟩)).record (.state state)
    have ho : (reach state).outcome s = (.ok (), published) := congrArg (Prod.mk _) (if_pos h)
    have hstate : s.control.state.later state = state := if_pos h
    refine ⟨[.log ⟨.debug, message⟩, .state state], published, ho, ?_⟩
    rw [if_pos h]
    exact ⟨⟨by simp [published, Session.record], rfl, rfl⟩, rfl,
      Nat.le_of_eq (congrArg Lifecycle.rank hstate.symm), _, rfl⟩
  · have ho : (reach state).outcome s = (.ok (), s) := congrArg (Prod.mk _) (if_neg h)
    refine ⟨[], s, ho, ?_⟩
    rw [if_neg h]
    exact ⟨.refl s, rfl, Nat.le_of_not_lt h, rfl⟩

theorem returns_reach (state : Lifecycle) (s : Session α σ) :
    (reach state).Returns s fun _ es s' => exchanges es = [] ∧ s'.lease = s.lease := by
  obtain ⟨es, s', ho, hp, hlease, -, hes⟩ := outcome_reach state s
  unfold Returns
  rw [ho]
  refine ⟨es, hp, ?_, hlease⟩
  split at hes
  · obtain ⟨record, rfl⟩ := hes
    rfl
  · rw [hes]
    rfl

/-! ## steps that may fail for a cause -/

namespace Attempt

def Returns (m : Attempt α σ β) (s : Session α σ) (Q : β → List (Event α) → Session α σ → Prop)
    (F : DisplayError → List (Event α) → Session α σ → Prop) : Prop :=
  Play.Returns m.run s fun r es s' => match r with
    | .ok v => Q v es s'
    | .error e => F e es s'

variable {s : Session α σ}

theorem Returns.bind {m : Attempt α σ β} {f : β → Attempt α σ γ}
    {Q : β → List (Event α) → Session α σ → Prop} {R : γ → List (Event α) → Session α σ → Prop}
    {F : DisplayError → List (Event α) → Session α σ → Prop} (h : m.Returns s Q F)
    (hf : ∀ v es s', Q v es s' → (f v).Returns s' (fun w fs s'' => R w (es ++ fs) s'')
      fun e fs s'' => F e (es ++ fs) s'') :
    Returns (m >>= f) s R F := by
  refine Play.Returns.bind h fun r es s' hr => ?_
  cases r with
  | ok v => exact hf v es s' hr
  | error e => exact .pure (by rw [List.append_nil]; exact hr)

theorem Returns.lift {m : Play α σ β} {Q : β → List (Event α) → Session α σ → Prop}
    {F : DisplayError → List (Event α) → Session α σ → Prop} (h : m.Returns s Q) :
    Returns (ExceptT.lift m) s Q F :=
  h.bind fun v es s' hv => .pure (by rw [List.append_nil]; exact hv)

theorem Returns.throw {e : DisplayError} {Q : β → List (Event α) → Session α σ → Prop}
    {F : DisplayError → List (Event α) → Session α σ → Prop} (h : F e [] s) :
    Returns (throw e : Attempt α σ β) s Q F := Play.Returns.pure h

end Attempt

end FireflyOverlay
