import FireflyOverlay.Proofs.Parts

/-!
# Plays that are cut short

A crash ends a play in the middle.  What was drawn by then is told here, whether the play returns
or not.

* `drawCalls`        the draw calls of a stretch that were answered;
* `Play.Ends`        `m.Ends s R Q`: from `s` the play `m` adds some stretch `es`; either a call of
                     it crashed and `R es`, or `m` returns a value `v` and `Q v es`;
* `Play.DrawsOnly p` whatever the play draws satisfies `p`;
* `Play.DrawsNothing`   it holds of `acquire`, `ensureCurrent`, `present` and `release`, and of all
                     steps that are no calls.
-/

namespace FireflyOverlay

variable {α σ β γ : Type}

/-! ## what is drawn -/

def Call.draw? : Call α → Option (DrawCall α)
  | .draw c => some c
  | _ => none

def drawCalls (es : List (Event α)) : List (DrawCall α) :=
  ((exchanges es).map Exchange.call).filterMap Call.draw?

theorem drawCalls_append (es fs : List (Event α)) :
    drawCalls (es ++ fs) = drawCalls es ++ drawCalls fs := by
  rw [drawCalls, exchanges_append, List.map_append, List.filterMap_append, drawCalls, drawCalls]

theorem drawCalls_of_exchanges {es : List (Event α)} (h : exchanges es = []) :
    drawCalls es = [] := by rw [drawCalls, h]; rfl

theorem drawCalls_requestEvents (r : Requests) : drawCalls (requestEvents (α := α) r) = [] :=
  drawCalls_of_exchanges (exchanges_requestEvents r)

theorem Draws.drawCalls {cs : List (DrawCall α)} {es : List (Event α)}
    (h : Draws cs es) : drawCalls es = cs := by
  have hcs : (cs.map Call.draw).filterMap Call.draw? = cs := by
    rw [List.filterMap_map]
    exact List.filterMap_some
  have hmap : (exchanges es).map Exchange.call = cs.map Call.draw := h
  rw [FireflyOverlay.drawCalls, hmap, hcs]

variable [Display α σ]

namespace Play

/-! ## the judgement -/

def Ends (m : Play α σ β) (s : Session α σ) (R : List (Event α) → Prop)
    (Q : β → List (Event α) → Prop) : Prop :=
  ∃ es, s.Plays es (m.outcome s).2 ∧
    match (m.outcome s).1 with
    | .ok v => Q v es
    | .error _ => Crashed es ∧ R es

namespace Ends

variable {s : Session α σ} {R : List (Event α) → Prop} {Q : β → List (Event α) → Prop}

theorem mono {m : Play α σ β} {R' : List (Event α) → Prop} {Q' : β → List (Event α) → Prop}
    (h : m.Ends s R Q) (hR : ∀ es, Crashed es → R es → R' es) (hQ : ∀ v es, Q v es → Q' v es) :
    m.Ends s R' Q' := by
  obtain ⟨es, hp, hr⟩ := h
  refine ⟨es, hp, ?_⟩
  split at hr
  · next v _ => exact hQ v es hr
  · exact ⟨hr.1, hR es hr.1 hr.2⟩

theorem pure {v : β} (h : Q v []) : Ends (pure v) s R Q := ⟨[], .refl s, h⟩

theorem bind {m : Play α σ β} {f : β → Play α σ γ} {R' : List (Event α) → Prop}
    {Q' : γ → List (Event α) → Prop} (h : m.Ends s R Q) (hR : ∀ es, Crashed es → R es → R' es)
    (hf : ∀ v es s', s.Plays es s' → Q v es →
      (f v).Ends s' (fun fs => R' (es ++ fs)) fun w fs => Q' w (es ++ fs)) :
    (m >>= f).Ends s R' Q' := by
  obtain ⟨es, hp, hr⟩ := h
  unfold Ends
  rw [outcome_bind]
  rcases hm : m.outcome s with ⟨_ | v, s'⟩
  · rw [hm] at hp hr
    exact ⟨es, hp, hr.1, hR es hr.1 hr.2⟩
  · rw [hm] at hp hr
    obtain ⟨fs, hp', hr'⟩ := hf v es s' hp hr
    refine ⟨es ++ fs, hp.trans hp', ?_⟩
    show match ((f v).outcome s').1 with | .ok w => Q' w (es ++ fs) | .error _ => _
    cases hw : ((f v).outcome s').1 with
    | ok w => rw [hw] at hr'; exact hr'
    | error e => rw [hw] at hr'; exact ⟨hr'.1.append_right, hr'.2⟩

theorem get {f : Session α σ → Play α σ γ} {Q : γ → List (Event α) → Prop}
    (h : (f s).Ends s R Q) : Ends (MonadState.get >>= f : Play α σ γ) s R Q := h

/-- Steps that do not crash. -/
theorem of_ok {m : Play α σ β} {Q' : β → List (Event α) → Session α σ → Prop}
    (h : m.Returns s Q') (hok : ∃ v, (m.outcome s).1 = .ok v)
    (hQ : ∀ v es s', Q' v es s' → Q v es) : m.Ends s R Q := by
  obtain ⟨es, hp, hr⟩ := h
  obtain ⟨v, hv⟩ := hok
  refine ⟨es, hp, ?_⟩
  rw [hv] at hr ⊢
  exact hQ v es _ hr

/-- What draws nothing may follow. -/
theorem then_nothing {m : Play α σ β} {f : β → Play α σ γ} {R : List (Event α) → Prop}
    (h : m.Ends s R fun _ => R)
    (hf : ∀ v s', (f v).Ends s' (fun es => drawCalls es = []) fun _ es => drawCalls es = [])
    (hR : ∀ es fs, R es → drawCalls fs = [] → R (es ++ fs)) : (m >>= f).Ends s R fun _ => R :=
  h.bind (fun _ _ h => h) fun v es s' _ hes =>
    (hf v s').mono (fun fs _ => hR es fs hes) fun _ fs => hR es fs hes

/-- Both judgements tell of one stretch. -/
theorem and_returns {m : Play α σ β} {Q' : β → List (Event α) → Session α σ → Prop}
    (h : m.Ends s R Q) (h' : m.Returns s Q') :
    m.Ends s R fun v es => Q v es ∧ ∃ s', Q' v es s' := by
  obtain ⟨es, hp, hr⟩ := h
  obtain ⟨fs, hp', hr'⟩ := h'
  have hes : fs = es := List.append_cancel_left (hp'.trace.symm.trans hp.trace)
  subst hes
  refine ⟨fs, hp, ?_⟩
  cases hm : (m.outcome s).1 with
  | ok v => rw [hm] at hr hr'; exact ⟨hr, _, hr'⟩
  | error e => rw [hm] at hr; exact hr

/-- A handler that throws again adds to what there is. -/
theorem tryCatch {m : Play α σ β} {after : Play α σ Unit} {R' : List (Event α) → Prop}
    (h : m.Ends s R Q) (ha : ∀ es s', s.Plays es s' → R es →
      after.Ends s' (fun fs => R' (es ++ fs)) fun _ fs => R' (es ++ fs)) :
    Ends (tryCatch m fun cause => do after; throw cause) s R' Q := by
  obtain ⟨es, hp, hr⟩ := h
  unfold Ends
  rw [outcome_tryCatch]
  rcases hm : m.outcome s with ⟨cause | v, s'⟩
  · rw [hm] at hp hr
    obtain ⟨fs, hp', hr'⟩ := ha es s' hp hr.2
    have hthrow : (do after; throw cause : Play α σ β).outcome s' =
        (match (after.outcome s').1 with
          | .ok _ => .error cause
          | .error e => .error e, (after.outcome s').2) := by
      rw [outcome_bind]
      rcases after.outcome s' with ⟨_ | _, _⟩ <;> rfl
    refine ⟨es ++ fs, ?_, ?_⟩
    · show s.Plays _ ((do after; throw cause : Play α σ β).outcome s').2
      rw [hthrow]
      exact hp.trans hp'
    · show match ((do after; throw cause : Play α σ β).outcome s').1 with
        | .ok w => Q w (es ++ fs) | .error _ => Crashed (es ++ fs) ∧ R' (es ++ fs)
      rw [hthrow]
      cases hw : (after.outcome s').1 with
      | ok _ => rw [hw] at hr'; exact ⟨hr.1.append_left, hr'⟩
      | error _ => rw [hw] at hr'; exact ⟨hr.1.append_left, hr'.2⟩
  · rw [hm] at hp hr
    exact ⟨es, hp, hr⟩

end Ends

/-! ## what a play draws at most -/

def DrawsOnly (p : DrawCall α → Prop) (m : Play α σ β) : Prop :=
  ∀ s, m.Ends s (fun es => ∀ c ∈ drawCalls es, p c) fun _ es => ∀ c ∈ drawCalls es, p c

abbrev DrawsNothing (m : Play α σ β) : Prop := m.DrawsOnly fun _ => False

variable {p : DrawCall α → Prop}

namespace DrawsOnly

theorem pure (v : β) : DrawsOnly p (pure v : Play α σ β) :=
  fun _ => .pure fun _ hc => absurd hc List.not_mem_nil

theorem bind {m : Play α σ β} {f : β → Play α σ γ} (h : m.DrawsOnly p)
    (hf : ∀ v, (f v).DrawsOnly p) : (m >>= f).DrawsOnly p := by
  intro s
  refine (h s).bind (fun _ _ h => h) fun v es s' _ hes => ?_
  have happend : ∀ fs, (∀ c ∈ drawCalls fs, p c) → ∀ c ∈ drawCalls (es ++ fs), p c := by
    intro fs hfs
    rw [drawCalls_append]
    exact List.forall_mem_append.mpr ⟨hes, hfs⟩
  exact (hf v s').mono (fun fs _ => happend fs) fun _ fs => happend fs

theorem get {f : Session α σ → Play α σ γ} (h : ∀ s, (f s).DrawsOnly p) :
    DrawsOnly p (MonadState.get >>= f : Play α σ γ) := fun s => .get (h s s)

theorem of_nothing {m : Play α σ β} (h : m.DrawsNothing) : m.DrawsOnly p := fun s =>
  (h s).mono (fun _ _ hes c hc => (hes c hc).elim) fun _ _ hes c hc => (hes c hc).elim

end DrawsOnly

theorem nil_of_nothing {es : List (Event α)} (h : ∀ c ∈ drawCalls es, False) :
    drawCalls es = [] := List.eq_nil_iff_forall_not_mem.mpr h

theorem DrawsOnly.nil {m : Play α σ β} (h : m.DrawsNothing) (s : Session α σ) :
    m.Ends s (fun es => drawCalls es = []) fun _ es => drawCalls es = [] :=
  (h s).mono (fun _ _ => nil_of_nothing) fun _ _ => nil_of_nothing

end Play

open Play

/-! ### calls -/

theorem ends_perform (c : Call α) (s : Session α σ) :
    (perform c).Ends s (fun es => exchanges es = []) fun v es => exchanges es = [⟨c, v⟩] := by
  unfold Ends
  cases h : (Display.step c s.display).1.reply with
  | none =>
    rw [outcome_perform_none h]
    refine ⟨_, s.plays_afterCall c, ⟨c, ?_⟩, ?_⟩
    · rw [callEvents, h]
      exact List.mem_cons_self
    · show exchanges (callEvents c (Display.step c s.display).1) = []
      rw [callEvents, h, exchanges_append, exchanges_append, exchanges_logs,
        exchanges_requestEvents]
      rfl
  | some v =>
    rw [outcome_perform_some h]
    exact ⟨_, s.plays_afterCall c, exchanges_callEvents c _ v h⟩

theorem ends_performAll (cs : List (DrawCall α)) (s : Session α σ) :
    (performAll cs).Ends s (fun es => drawCalls es <+: cs) fun _ es => drawCalls es = cs := by
  induction cs generalizing s with
  | nil => exact .pure rfl
  | cons c cs ih =>
    refine (ends_perform (.draw c) s).bind (fun es _ h => ?_) fun v es s' _ h => ?_
    · rw [drawCalls_of_exchanges h]
      exact List.nil_prefix
    · have hone : drawCalls es = [c] := by rw [drawCalls, h]; rfl
      refine (ih s').mono (fun fs _ hfs => ?_) fun _ fs hfs => ?_
      · rw [drawCalls_append, hone]
        exact List.prefix_cons_inj c |>.mpr hfs
      · rw [drawCalls_append, hone, hfs]
        rfl

theorem drawsOnly_perform {p : DrawCall α → Prop} {c : Call α}
    (h : ∀ d, c = .draw d → p d) : (perform c : Play α σ c.Reply).DrawsOnly p := by
  refine fun s => (ends_perform c s).mono (fun es _ hes => ?_) fun v es hes => ?_
  · rw [drawCalls_of_exchanges hes]
    exact fun _ hc => absurd hc List.not_mem_nil
  · intro d hd
    rw [drawCalls, hes] at hd
    obtain ⟨c', hc', hd'⟩ := List.mem_filterMap.mp hd
    rw [List.mem_singleton.mp hc'] at hd'
    cases c with
    | draw c => exact h d (congrArg Call.draw (Option.some.inj hd'))
    | _ => cases hd'

theorem drawsNothing_perform {c : Call α} (h : c.isDraw = false) :
    (perform c : Play α σ c.Reply).DrawsNothing :=
  drawsOnly_perform fun d hd => by rw [hd] at h; cases h

/-! ### steps that are no calls -/

theorem drawsNothing_of_ok {m : Play α σ β} {Q : β → Session α σ → Session α σ → Prop}
    (h : ∀ s, m.Returns s fun v es s' => exchanges es = [] ∧ Q v s s')
    (hok : ∀ s, ∃ v, (m.outcome s).1 = .ok v) : m.DrawsNothing := fun s =>
  .of_ok (h s) (hok s) fun _ _ _ hes => by
    rw [drawCalls_of_exchanges hes.1]
    exact fun _ hc => absurd hc List.not_mem_nil

theorem drawsNothing_log (level : Level) (message : String) :
    (log level message : Play α σ Unit).DrawsNothing :=
  drawsNothing_of_ok (Q := fun _ s s' => s'.lease = s.lease) (returns_log level message)
    fun _ => ⟨(), rfl⟩

theorem drawsNothing_reach (state : Lifecycle) : (reach state : Play α σ Unit).DrawsNothing :=
  drawsNothing_of_ok (Q := fun _ s s' => s'.lease = s.lease) (returns_reach state)
    fun _ => ⟨(), rfl⟩

theorem ends_request (r : Requests) (s : Session α σ) {R : List (Event α) → Prop} :
    (request r).Ends s R fun _ es => es = requestEvents r :=
  .of_ok (returns_request r s) ⟨(), rfl⟩ fun _ _ _ h => h.1

theorem drawsNothing_holdLease (f : Lease → Lease) :
    (holdLease f : Play α σ Unit).DrawsNothing := fun s =>
  .of_ok (returns_holdLease f s) ⟨(), rfl⟩ fun _ es _ hes => by
    rw [hes.1]
    exact fun _ hc => absurd hc List.not_mem_nil

/-! ### what a lease does -/

theorem closed_drawsOnly (p : DrawCall α → Prop) :
    Closed (fun _ (m : Play α σ _) => m.DrawsOnly p) fun c => ∀ d, c = .draw d → p d where
  pure := .pure
  bind := .bind
  get := .get
  log level message := .of_nothing (drawsNothing_log level message)
  perform _ := drawsOnly_perform

theorem closed_drawsNothing :
    Closed (fun _ (m : Play α σ _) => m.DrawsNothing) fun c => c.isDraw = false where
  pure := .pure
  bind := .bind
  get := .get
  log := drawsNothing_log
  perform _ := drawsNothing_perform

theorem drawsNothing_release : (release : Play α σ Unit).DrawsNothing :=
  closed_release closed_drawsNothing (fun _ => Call.isDraw_of_isRelease) drawsNothing_holdLease

theorem drawsNothing_ensureCurrent :
    (ensureCurrent : Play α σ (Except DisplayError Unit)).DrawsNothing :=
  closed_ensureCurrent closed_drawsNothing fun _ => Call.isDraw_of_isUse

theorem drawsNothing_present :
    (present : Play α σ (Except DisplayError Unit)).DrawsNothing :=
  closed_present closed_drawsNothing fun _ => Call.isDraw_of_isUse

theorem drawsNothing_acquire (w : WindowId) :
    (acquire w : Play α σ (Except DisplayError Unit)).DrawsNothing :=
  closed_acquire closed_drawsNothing (fun _ hc => hc) drawsNothing_holdLease w

end FireflyOverlay
