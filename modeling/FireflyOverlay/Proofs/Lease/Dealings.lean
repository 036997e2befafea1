import FireflyOverlay.Proofs.Lease.Ledger
import FireflyOverlay.Proofs.Parts

/-!
# Handles, crash or no crash

`Trades` tells what an operation does to the handles of a lease if it returns.  It is told here of
every play of it, also of one that a crash cuts short.  Then it matters that a handle leaves the
lease before its end is asked for.

* `HandleKind.doing`   what an event does to a handle: the call for its end counts, answered or not;
* `Play.Leads`         `m.Leads s Q`: by some stretch `es` the play `m` leads from `s` to a session
                       `s'`, and `Q r es s'` where `r` is its result, a crash or a value;
* `Play.Keeps`         the play leaves the lease alone and does nothing to handles;
* `Play.Deals`         from what is held before to what is held after, by the deeds of the stretch;
* `leads_acquire`      an acquisition does to handles what its first steps do, and puts what they
                       give into the lease;
* `MakesNone`          no handle is made; so it is with a release;
* `deals_playOp`       every operation deals so.
-/

namespace FireflyOverlay

variable {α σ β γ : Type}

/-! ## what an event does -/

namespace HandleKind

def doing : HandleKind → Event α → Option Deed
  | kind, .call c (some reply) => kind.deed ⟨c, reply⟩
  | .context, .call (.destroyContext _ n) none => some (.ended n false)
  | .surface, .call (.destroySurface _ n) none => some (.ended n false)
  | _, _ => none

def doings (kind : HandleKind) (es : List (Event α)) : List Deed := es.filterMap kind.doing

theorem doings_append (kind : HandleKind) (es fs : List (Event α)) :
    kind.doings (es ++ fs) = kind.doings es ++ kind.doings fs := List.filterMap_append

theorem doings_requestEvents (kind : HandleKind) (r : Requests) :
    kind.doings (requestEvents (α := α) r) = [] := by
  unfold requestEvents
  split <;> cases kind <;> rfl

theorem doings_callEvents (kind : HandleKind) (c : Call α) (r : Reaction c.Reply) :
    kind.doings (callEvents c r) = (kind.doing (.call c r.reply)).toList := by
  have hlogs : kind.doings (r.logs.map (Event.log (α := α))) = [] := by
    unfold doings
    rw [List.filterMap_map]
    exact List.filterMap_eq_nil_iff.mpr fun _ _ => by cases kind <;> rfl
  have hcall : kind.doings [Event.call c r.reply] = (kind.doing (.call c r.reply)).toList := by
    unfold doings
    cases h : kind.doing (.call c r.reply) with
    | none => rw [List.filterMap_cons_none h]; rfl
    | some d => rw [List.filterMap_cons_some h]; rfl
  rw [callEvents, doings_append, doings_append, hlogs, kind.doings_requestEvents, hcall,
    List.append_nil, List.append_nil]

/-- The handle of the kind whose end a call asks for. -/
def ends? : HandleKind → Call α → Option Nat
  | .context, .destroyContext _ n => some n
  | .surface, .destroySurface _ n => some n
  | _, _ => none

/-- A call for a new handle of the kind. -/
def makes : HandleKind → Call α → Bool
  | .context, .createContext _ _ => true
  | .surface, .createSurface _ _ _ => true
  | _, _ => false

theorem doing_of_ends {kind : HandleKind} {c : Call α} {n : Nat} (h : kind.ends? c = some n)
    (reply : Option c.Reply) : ∃ done, kind.doing (.call c reply) = some (.ended n done) := by
  cases kind <;> cases c <;> cases h <;> cases reply <;> exact ⟨_, rfl⟩

theorem doing_other {kind other : HandleKind} {c : Call α} {n : Nat} (h : kind.ends? c = some n)
    (ho : other ≠ kind) (reply : Option c.Reply) : other.doing (.call c reply) = none := by
  cases kind <;> cases other
  · exact absurd rfl ho
  · cases c <;> cases h
    cases reply <;> rfl
  · cases c <;> cases h
    cases reply <;> rfl
  · exact absurd rfl ho

theorem doing_eq_ended {kind : HandleKind} {c : Call α} (hm : kind.makes c = false)
    {reply : Option c.Reply} {d : Deed} (h : kind.doing (.call c reply) = some d) :
    ∃ n done, d = .ended n done ∧ kind.ends? c = some n := by
  cases kind <;> cases c <;> cases hm <;> cases reply <;> cases h <;> exact ⟨_, _, rfl, rfl⟩

end HandleKind

theorem HandleKind.doing_idle {c : Call α} (h : c.isIdle = true) (kind : HandleKind)
    (reply : Option c.Reply) : kind.doing (.call c reply) = none := by
  cases c <;> cases h <;> cases kind <;> cases reply <;> rfl

/-! ## where a play leads -/

namespace Play

variable [Display α σ] {s : Session α σ}

def Leads (m : Play α σ β) (s : Session α σ)
    (Q : Except Crash β → List (Event α) → Session α σ → Prop) : Prop :=
  ∃ es, s.Plays es (m.outcome s).2 ∧ Q (m.outcome s).1 es (m.outcome s).2

namespace Leads

variable {Q : Except Crash β → List (Event α) → Session α σ → Prop}
  {R : Except Crash γ → List (Event α) → Session α σ → Prop}

theorem mono {m : Play α σ β} {Q' : Except Crash β → List (Event α) → Session α σ → Prop}
    (h : m.Leads s Q) (hQ : ∀ r es s', Q r es s' → Q' r es s') : m.Leads s Q' := by
  obtain ⟨es, hp, hq⟩ := h
  exact ⟨es, hp, hQ _ _ _ hq⟩

theorem pure {v : β} (h : Q (.ok v) [] s) : Leads (pure v) s Q := ⟨[], .refl s, h⟩

theorem throw {e : Crash} (h : Q (.error e) [] s) : Leads (throw e) s Q := ⟨[], .refl s, h⟩

theorem bind {m : Play α σ β} {f : β → Play α σ γ} (h : m.Leads s Q)
    (he : ∀ e es s', Q (.error e) es s' → R (.error e) es s')
    (hf : ∀ v es s', Q (.ok v) es s' → (f v).Leads s' fun r fs s'' => R r (es ++ fs) s'') :
    (m >>= f).Leads s R := by
  obtain ⟨es, hp, hq⟩ := h
  unfold Leads
  rw [outcome_bind]
  rcases hm : m.outcome s with ⟨e | v, s'⟩
  · rw [hm] at hp hq
    exact ⟨es, hp, he e es s' hq⟩
  · rw [hm] at hp hq
    obtain ⟨fs, hp', hr⟩ := hf v es s' hq
    exact ⟨es ++ fs, hp.trans hp', hr⟩

theorem modify {f : Session α σ → Session α σ}
    {Q : Except Crash Unit → List (Event α) → Session α σ → Prop} (es : List (Event α))
    (hp : s.Plays es (f s)) (h : Q (.ok ()) es (f s)) :
    Leads (modify f : Play α σ Unit) s Q := ⟨es, hp, h⟩

theorem get {f : Session α σ → Play α σ γ} (h : (f s).Leads s R) :
    Leads (MonadState.get >>= f : Play α σ γ) s R := h

/-- Both tell of one stretch. -/
theorem and {m : Play α σ β} {Q' : Except Crash β → List (Event α) → Session α σ → Prop}
    (h : m.Leads s Q) (h' : m.Leads s Q') :
    m.Leads s fun r es s' => Q r es s' ∧ Q' r es s' := by
  obtain ⟨es, hp, hq⟩ := h
  obtain ⟨fs, hp', hq'⟩ := h'
  obtain rfl : fs = es := List.append_cancel_left (hp'.trace.symm.trans hp.trace)
  exact ⟨fs, hp, hq, hq'⟩

theorem plays {m : Play α σ β} (h : m.Leads s Q) :
    m.Leads s fun r es s' => s.Plays es s' ∧ Q r es s' := by
  obtain ⟨es, hp, hq⟩ := h
  exact ⟨es, hp, hp, hq⟩

end Leads

theorem Returns.leads {m : Play α σ β} {Q : β → List (Event α) → Session α σ → Prop}
    (h : m.Returns s Q) : m.Leads s fun r es s' => match r with
      | .ok v => Q v es s'
      | .error _ => Crashed es := h

end Play

open Play

section
variable [Display α σ]

theorem leads_perform (c : Call α) (s : Session α σ) :
    (perform c).Leads s fun r es s' =>
      r.toOption = (Display.step c s.display).1.reply ∧
        es = callEvents c (Display.step c s.display).1 ∧
        s'.display = (Display.step c s.display).2 ∧ s'.lease = s.lease := by
  have hd : (s.afterCall c).display = (Display.step c s.display).2 := by
    unfold Session.afterCall Session.receive
    split <;> rfl
  unfold Leads
  cases h : (Display.step c s.display).1.reply with
  | none =>
    rw [outcome_perform_none h]
    exact ⟨_, s.plays_afterCall c, rfl, rfl, hd, s.lease_afterCall c⟩
  | some v =>
    rw [outcome_perform_some h]
    exact ⟨_, s.plays_afterCall c, rfl, rfl, hd, s.lease_afterCall c⟩

theorem leads_log (level : Level) (message : String) (s : Session α σ) :
    (log level message).Leads s fun r es s' =>
      r = .ok () ∧ es = [.log ⟨level, message⟩] ∧ s'.display = s.display ∧ s'.lease = s.lease :=
  .modify [.log ⟨level, message⟩] ⟨by simp [Session.record], rfl, rfl⟩ ⟨rfl, rfl, rfl, rfl⟩

theorem leads_holdLease (f : Lease → Lease) (s : Session α σ) :
    (holdLease f).Leads s fun r es s' =>
      r = .ok () ∧ es = [] ∧ s'.display = s.display ∧ s'.lease = f s.lease :=
  .modify [] ⟨by simp, rfl, rfl⟩ ⟨rfl, rfl, rfl, rfl⟩

theorem leads_request (r : Requests) (s : Session α σ) :
    (request r).Leads s fun r' es s' =>
      r' = .ok () ∧ es = requestEvents r ∧ s'.lease = s.lease :=
  .modify _ (s.plays_receive r) ⟨rfl, rfl, s.lease_receive r⟩

theorem leads_reach (state : Lifecycle) (s : Session α σ) :
    (reach state).Leads s fun r es s' => r = .ok () ∧ s'.lease = s.lease ∧
      state.rank ≤ s'.control.state.rank ∧
      if s.control.state.rank < state.rank then ∃ record, es = [.log record, .state state]
      else es = [] := by
  obtain ⟨es, s', ho, hp, hreached⟩ := outcome_reach state s
  unfold Leads
  rw [ho]
  exact ⟨es, hp, rfl, hreached⟩

/-! ## plays that leave the handles alone -/

namespace Play

/-- Crash or no crash, the lease stays as it is, and nothing happens to handles. -/
def Keeps (m : Play α σ β) : Prop :=
  ∀ s, m.Leads s fun _ es s' => s'.lease = s.lease ∧ ∀ kind : HandleKind, kind.doings es = []

namespace Keeps

theorem pure (v : β) : Keeps (pure v : Play α σ β) := fun _ => .pure ⟨rfl, fun _ => rfl⟩

theorem bind {m : Play α σ β} {f : β → Play α σ γ} (h : m.Keeps) (hf : ∀ v, (f v).Keeps) :
    (m >>= f).Keeps := by
  refine fun s => (h s).bind (fun _ _ _ h => h) fun v es s' hes => ?_
  refine (hf v s').mono fun _ fs s'' hfs => ⟨hfs.1.trans hes.1, fun kind => ?_⟩
  rw [kind.doings_append, hes.2 kind, hfs.2 kind]
  rfl

theorem get {f : Session α σ → Play α σ γ} (h : ∀ s, (f s).Keeps) :
    Keeps (MonadState.get >>= f : Play α σ γ) := fun s => .get (h s s)

end Keeps
end Play

theorem keeps_perform {c : Call α} (h : c.isIdle = true) :
    (perform c : Play α σ c.Reply).Keeps := by
  refine fun s => (leads_perform c s).mono fun _ es s' hc => ⟨hc.2.2.2, fun kind => ?_⟩
  rw [hc.2.1, kind.doings_callEvents, kind.doing_idle h]
  rfl

theorem keeps_log (level : Level) (message : String) :
    (log level message : Play α σ Unit).Keeps := by
  refine fun s => (leads_log level message s).mono fun _ es s' h => ⟨h.2.2.2, fun kind => ?_⟩
  rw [h.2.1]
  cases kind <;> rfl

theorem keeps_request (r : Requests) : (request r : Play α σ Unit).Keeps :=
  fun s => (leads_request r s).mono fun _ es _ h => ⟨h.2.2, fun kind => by
    rw [h.2.1]
    exact kind.doings_requestEvents r⟩

theorem keeps_reach (state : Lifecycle) : (reach state : Play α σ Unit).Keeps := by
  refine fun s => (leads_reach state s).mono fun _ es _ h => ⟨h.2.1, fun kind => ?_⟩
  obtain ⟨-, -, -, hes⟩ := h
  split at hes
  · obtain ⟨record, rfl⟩ := hes
    cases kind <;> rfl
  · rw [hes]
    rfl

theorem closed_keeps : Closed (fun _ (m : Play α σ _) => m.Keeps) fun c => c.isIdle = true where
  pure := .pure
  bind := .bind
  get := .get
  log := keeps_log
  perform _ := keeps_perform

theorem keeps_ensureCurrent : (ensureCurrent : Play α σ (Except DisplayError Unit)).Keeps :=
  closed_ensureCurrent closed_keeps fun _ => Call.isIdle_of_isUse

theorem keeps_present : (present : Play α σ (Except DisplayError Unit)).Keeps :=
  closed_present closed_keeps fun _ => Call.isIdle_of_isUse

/-! ## plays that deal in handles -/

namespace Play

/-- Crash or no crash, the deeds lead from what is held before to what is held after. -/
def Deals (m : Play α σ β) (s : Session α σ) : Prop :=
  m.Leads s fun _ es s' =>
    ∀ kind : HandleKind, Traded (kind.held s.lease) (kind.doings es) (kind.held s'.lease)

theorem Keeps.deals {m : Play α σ β} (h : m.Keeps) (s : Session α σ) : m.Deals s :=
  (h s).mono fun _ es s' hes kind => by
    rw [hes.1, hes.2 kind]
    exact .nothing

namespace Deals

variable {s : Session α σ}

theorem bind {m : Play α σ β} {f : β → Play α σ γ} (h : m.Deals s)
    (hf : ∀ v s', (f v).Deals s') : (m >>= f).Deals s := by
  refine Leads.bind h (fun _ _ _ h => h) fun v es s' hes => ?_
  refine (hf v s').mono fun _ fs s'' hfs kind => ?_
  rw [kind.doings_append]
  exact (hes kind).append (hfs kind)

theorem get {f : Session α σ → Play α σ γ} (h : (f s).Deals s) :
    Deals (MonadState.get >>= f : Play α σ γ) s := Leads.get h

end Deals
end Play

theorem deals_holdLease {f : Lease → Lease}
    (h : ∀ (kind : HandleKind) l, kind.held (f l) = kind.held l) (s : Session α σ) :
    (holdLease f).Deals s := by
  refine (leads_holdLease f s).mono fun _ es s' hs kind => ?_
  rw [hs.2.1, hs.2.2.2, h kind]
  exact .nothing

/-! ### acquiring -/

/-- The stretch does to handles what the calls `xs` do. -/
def DealsAs (es : List (Event α)) (xs : List (Exchange α)) : Prop :=
  ∀ kind : HandleKind, kind.doings es = xs.filterMap kind.deed

omit [Display α σ] in
theorem DealsAs.append {es fs : List (Event α)} {xs ys : List (Exchange α)} (h : DealsAs es xs)
    (h' : DealsAs fs ys) : DealsAs (es ++ fs) (xs ++ ys) := by
  intro kind
  rw [kind.doings_append, h kind, h' kind, List.filterMap_append]

omit [Display α σ] in
theorem DealsAs.append_nothing {es fs : List (Event α)} {xs : List (Exchange α)} (h : DealsAs es xs)
    (h' : DealsAs fs []) : DealsAs (es ++ fs) xs := List.append_nil xs ▸ h.append h'

omit [Display α σ] in
theorem HandleKind.doings_after_nothing {gs : List (Event α)} (h : DealsAs gs [])
    (kind : HandleKind) (es : List (Event α)) : kind.doings (gs ++ es) = kind.doings es := by
  rw [kind.doings_append, h kind]
  rfl

omit [Display α σ] in
theorem dealsAs_callEvents {c : Call α} {r : Reaction c.Reply} {v : c.Reply}
    (h : r.reply = some v) : DealsAs (callEvents c r) [⟨c, v⟩] := by
  intro kind
  have hdoing : kind.doing (.call c (some v)) = kind.deed ⟨c, v⟩ := by cases kind <;> rfl
  rw [kind.doings_callEvents, h, hdoing]
  cases hd : kind.deed ⟨c, v⟩ with
  | none => rw [List.filterMap_cons_none hd]; rfl
  | some d => rw [List.filterMap_cons_some hd]; rfl

/-- Of an acquisition on the lease `l` some first steps are done, and `l'` holds what they gave. -/
def Acquired (w : WindowId) (l : Lease) (es : List (Event α)) (l' : Lease) : Prop :=
  ∃ (h : Handles) (k : Nat), l' = h.hold k l ∧ DealsAs es ((h.steps w).take k)

omit [Display α σ] in
theorem Acquired.append_nothing {w : WindowId} {l l' l'' : Lease} {es fs : List (Event α)}
    (h : Acquired w l es l') (hl : l'' = l') (hf : DealsAs fs []) :
    Acquired w l (es ++ fs) l'' := by
  obtain ⟨handles, k, hl', hes⟩ := h
  exact ⟨handles, k, hl.trans hl', hes.append_nothing hf⟩

omit [Display α σ] in
theorem Acquired.prepend_nothing {w : WindowId} {l l' : Lease} {gs es : List (Event α)}
    (hg : DealsAs gs []) (h : Acquired w l es l') : Acquired w l (gs ++ es) l' := by
  obtain ⟨handles, k, hl, hes⟩ := h
  exact ⟨handles, k, hl, fun kind => (kind.doings_after_nothing hg es).trans (hes kind)⟩

namespace Attempt

/-- No value is returned, and nothing happens to the lease and to handles. -/
def Refuses (m : Attempt α σ β) : Prop :=
  ∀ s, Play.Leads m.run s fun r es s' => (∀ v, r ≠ .ok (.ok v)) ∧ s'.lease = s.lease ∧ DealsAs es []

/-- A step of an acquisition: `c` answers `good v`, and `v` is put into the lease.  Where that fails
or crashes, nothing happens to the lease and to handles. -/
def Takes (m : Attempt α σ β) (c : Call α) (good : β → c.Reply) (put : β → Lease → Lease) : Prop :=
  ∀ s, Play.Leads m.run s fun r es s' => match r with
    | .ok (.ok v) => s'.lease = put v s.lease ∧ DealsAs es [⟨c, good v⟩]
    | _ => s'.lease = s.lease ∧ DealsAs es []

end Attempt

theorem refuses_throw (e : DisplayError) : (throw e : Attempt α σ β).Refuses :=
  fun _ => .pure ⟨nofun, rfl, fun _ => rfl⟩

theorem refuses_failWith (cause : ErrorCode → DisplayError) :
    (failWith cause : Attempt α σ β).Refuses := by
  intro s
  show Play.Leads (ExceptT.run (ExceptT.lift (perform .lastError) >>= _)) s _
  rw [ExceptT.run_bind_lift]
  have hkeeps : (perform .lastError : Play α σ ErrorCode).Keeps :=
    keeps_perform (c := .lastError) rfl
  refine (hkeeps s).bind (fun _ _ _ h => ⟨nofun, h.1, h.2⟩) fun code es s' h => .pure ?_
  rw [List.append_nil]
  exact ⟨nofun, h.1, h.2⟩

/-- Every answer is either good, or refused and of no consequence for handles. -/
theorem takes_ask {c : Call α} {f : c.Reply → Attempt α σ β} {good : β → c.Reply}
    {put : β → Lease → Lease} (hcrash : ∀ kind : HandleKind, kind.doing (.call c none) = none)
    (hf : ∀ reply, (∃ v, reply = good v ∧ f reply = do keep (put v); return v) ∨
      (∀ kind : HandleKind, kind.deed ⟨c, reply⟩ = none) ∧ (f reply).Refuses) :
    (ask c >>= f).Takes c good put := by
  intro s
  show Play.Leads (ExceptT.run (ExceptT.lift (perform c) >>= f)) s _
  rw [ExceptT.run_bind_lift]
  refine (leads_perform c s).bind (fun e es s' h => ⟨h.2.2.2, fun kind => ?_⟩)
    fun reply es s' h => ?_
  · have hreply : (Display.step c s.display).1.reply = none := h.1.symm
    rw [h.2.1, kind.doings_callEvents, hreply, hcrash kind]
    rfl
  have hes : DealsAs es [⟨c, reply⟩] := h.2.1 ▸ dealsAs_callEvents h.1.symm
  rcases hf reply with ⟨v, rfl, hv⟩ | ⟨hnone, hr⟩
  · have hkeep : ExceptT.run (do keep (put v); return v : Attempt α σ β) =
        holdLease (put v) >>= fun _ => pure (.ok v) := ExceptT.run_bind_lift _ _
    show Play.Leads (ExceptT.run (f (good v))) s' _
    rw [hv, hkeep]
    refine (leads_holdLease (put v) s').bind (fun _ _ _ hs => by cases hs.1) fun _ fs s'' hs =>
      .pure ⟨?_, ?_⟩
    · rw [hs.2.2.2, h.2.2.2]
    · rw [hs.2.1, List.append_nil, List.append_nil]
      exact hes
  · refine (hr s').mono fun r fs s'' hfs => ?_
    obtain ⟨hno, hl, hfs⟩ := hfs
    have hnil : s''.lease = s.lease ∧ DealsAs (es ++ fs) [] := by
      refine ⟨hl.trans h.2.2.2, fun kind => ?_⟩
      rw [hes.append hfs kind, List.append_nil, List.filterMap_cons_none (hnone kind)]
    match r with
    | .ok (.ok v) => exact absurd rfl (hno v)
    | .ok (.error _) | .error _ => exact hnil

theorem takes_getHandle {c : Call α} {read : c.Reply → Option β}
    {cause : ErrorCode → DisplayError} {put : β → Lease → Lease} {good : β → c.Reply}
    (hcrash : ∀ kind : HandleKind, kind.doing (.call c none) = none)
    (hgood : ∀ reply v, read reply = some v → reply = good v)
    (hbad : ∀ reply, read reply = none → ∀ kind : HandleKind, kind.deed ⟨c, reply⟩ = none) :
    (getHandle c read cause put : Attempt α σ β).Takes c good put := by
  refine takes_ask hcrash fun reply => ?_
  cases hr : read reply with
  | none => exact .inr ⟨hbad reply hr, refuses_failWith cause⟩
  | some v => exact .inl ⟨v, hgood reply v hr, rfl⟩

theorem takes_getConfig (d : DisplayId) :
    (getConfig d : Attempt α σ ConfigId).Takes (.chooseConfig d .overlay) (fun c => .ok (some c))
      fun c l => { l with config := some c } := by
  refine takes_ask (fun kind => by cases kind <;> rfl) fun reply => ?_
  rcases reply with code | _ | config
  · exact .inr ⟨fun kind => by cases kind <;> rfl, refuses_throw _⟩
  · exact .inr ⟨fun kind => by cases kind <;> rfl, refuses_throw _⟩
  · exact .inl ⟨config, rfl, rfl⟩

namespace Attempt

/-- What is left to do of an acquisition after the stretch `pre`; it began with the lease `l`. -/
def Gets (w : WindowId) (l : Lease) (pre : List (Event α)) (m : Attempt α σ Unit)
    (s : Session α σ) : Prop :=
  Play.Leads m.run s fun _ es s' => Acquired w l (pre ++ es) s'.lease

/-- The next step after the first `k`.  Of the handles `h` only those are fixed that these gave. -/
theorem Takes.gets {m : Attempt α σ β} {c : Call α} {good : β → c.Reply} {put : β → Lease → Lease}
    (hm : m.Takes c good put) (h : Handles) (k : Nat) {w : WindowId} {l : Lease}
    {pre : List (Event α)} {s : Session α σ} {f : β → Attempt α σ Unit}
    (hp : DealsAs pre ((h.steps w).take k)) (hl : s.lease = h.hold k l)
    (hf : ∀ v es s', DealsAs (pre ++ es) ((h.steps w).take k ++ [⟨c, good v⟩]) →
      s'.lease = put v (h.hold k l) → (f v).Gets w l (pre ++ es) s') :
    (m >>= f).Gets w l pre s := by
  have hsofar : Acquired w l pre s.lease := ⟨h, k, hl, hp⟩
  unfold Gets
  show Play.Leads (m.run >>= _) s _
  refine (hm s).bind (fun _ es s' h' => hsofar.append_nothing h'.1 h'.2) fun r es s' h' => ?_
  cases r with
  | error e => exact .pure (by rw [List.append_nil]; exact hsofar.append_nothing h'.1 h'.2)
  | ok v =>
    have hnext := hf v es s' (hp.append h'.2) (hl ▸ h'.1)
    unfold Gets at hnext
    simp only [List.append_assoc] at hnext
    exact hnext

end Attempt

theorem gets_acquireAll (w : WindowId) (s : Session α σ) :
    (acquireAll w).Gets w s.lease [] s := by
  have hdisplay : (getDisplay : Attempt α σ DisplayId).Takes .defaultDisplay some
      fun d l => { l with display := some d } :=
    takes_getHandle (fun kind => by cases kind <;> rfl) (fun _ _ h => h)
      fun _ _ kind => by cases kind <;> rfl
  have hopen : ∀ d, (openDisplay d : Attempt α σ (Nat × Nat)).Takes (.openDisplay d) some
      fun _ l => l := fun d =>
    takes_getHandle (fun kind => by cases kind <;> rfl) (fun _ _ h => h)
      fun _ _ kind => by cases kind <;> rfl
  have hcontext : ∀ d c, (getContext d c : Attempt α σ ContextId).Takes (.createContext d c) some
      fun x l => { l with context := some x } := fun d c =>
    takes_getHandle (fun kind => by cases kind <;> rfl) (fun _ _ h => h)
      fun reply h kind => by cases h; cases kind <;> rfl
  have hsurface : ∀ d c, (getSurface d c w : Attempt α σ SurfaceId).Takes (.createSurface d c w)
      some fun x l => { l with surface := some x } := fun d c =>
    takes_getHandle (fun kind => by cases kind <;> rfl) (fun _ _ h => h)
      fun reply h kind => by cases h; cases kind <;> rfl
  refine hdisplay.gets ⟨0, (0, 0), 0, 0, 0⟩ 0 (fun _ => rfl) rfl fun d es₁ s₁ h₁ l₁ => ?_
  refine (hopen d).gets ⟨d, (0, 0), 0, 0, 0⟩ 1 h₁ l₁ fun v es₂ s₂ h₂ l₂ => ?_
  refine (takes_getConfig d).gets ⟨d, v, 0, 0, 0⟩ 2 h₂ l₂ fun c es₃ s₃ h₃ l₃ => ?_
  refine (hcontext d c).gets ⟨d, v, c, 0, 0⟩ 3 h₃ l₃ fun x es₄ s₄ h₄ l₄ => ?_
  refine (hsurface d c).gets ⟨d, v, c, x, 0⟩ 4 h₄ l₄ fun y es₅ s₅ h₅ l₅ => ?_
  -- binding and reporting have nothing to do with handles
  have hrest : Play.Keeps (ExceptT.run (do
      bindFirst d ⟨y, x⟩
      ExceptT.lift (announce v c) : Attempt α σ Unit)) :=
    closed_attempt closed_keeps (closed_bindFirst closed_keeps rfl rfl) fun _ =>
      closed_lift closed_keeps (.get fun _ => keeps_log _ _)
  have hgot : Acquired w s.lease _ s₅.lease := ⟨⟨d, v, c, x, y⟩, 5, l₅, h₅⟩
  exact (hrest s₅).mono fun _ fs s' h => hgot.append_nothing h.1 h.2

/-- **What an acquisition does to the lease and to handles**, wherever a refusal or a crash ends
it. -/
theorem leads_acquire (w : WindowId) (s : Session α σ) :
    (acquire w).Leads s fun _ es s' => Acquired w s.lease es s'.lease := by
  refine (gets_acquireAll w s).bind (fun _ _ _ h => h) fun result es s' hs => ?_
  cases result with
  | ok _ => exact .pure (by rw [List.append_nil]; exact hs)
  | error e =>
    refine Leads.mono (((keeps_log _ _).bind fun _ => .pure _) s') fun _ _ _ hfs => ?_
    exact Acquired.append_nothing hs hfs.1 hfs.2

theorem deals_acquire (w : WindowId) (s : Session α σ) :
    (acquire w : Play α σ (Except DisplayError Unit)).Deals s := by
  refine (leads_acquire w s).mono fun _ es s' hs kind => ?_
  obtain ⟨h, k, hl, hes⟩ := hs
  rw [hl, hes kind]
  exact h.traded_take w s.lease kind k

/-! ### releasing -/

theorem Call.makes_of_isRelease {c : Call α} (h : c.isRelease = true) (kind : HandleKind) :
    kind.makes c = false := by
  cases kind <;> cases c <;> first | rfl | cases h

/-- No handle is made. -/
def MakesNone (es : List (Event α)) : Prop := ∀ (kind : HandleKind) n, .made n ∉ kind.doings es

theorem MakesNone.of_nothing {es : List (Event α)} (h : DealsAs es []) : MakesNone es := by
  intro kind n
  rw [h kind]
  exact List.not_mem_nil

theorem MakesNone.append {es fs : List (Event α)} (h : MakesNone es) (h' : MakesNone fs) :
    MakesNone (es ++ fs) := by
  intro kind n
  rw [kind.doings_append, List.mem_append, not_or]
  exact ⟨h kind n, h' kind n⟩

theorem MakesNone.of_append {es fs : List (Event α)} (h : MakesNone (es ++ fs)) :
    MakesNone es ∧ MakesNone fs := by
  simp only [MakesNone, HandleKind.doings_append, List.mem_append, not_or] at h
  exact ⟨fun kind n => (h kind n).1, fun kind n => (h kind n).2⟩

theorem makesNone_callEvents {c : Call α} (h : ∀ kind : HandleKind, kind.makes c = false)
    (r : Reaction c.Reply) : MakesNone (callEvents c r) := by
  intro kind n hn
  rw [kind.doings_callEvents, Option.mem_toList] at hn
  obtain ⟨_, _, he, -⟩ := HandleKind.doing_eq_ended (h kind) hn
  cases he

theorem closed_makesNone :
    Closed (fun _ (m : Play α σ _) => ∀ s, m.Leads s fun _ es _ => MakesNone es)
      fun c => ∀ kind : HandleKind, kind.makes c = false where
  pure _ := fun _ => .pure fun _ _ => List.not_mem_nil
  bind h hf s := (h s).bind (fun _ _ _ h => h) fun v _ s' hes =>
    (hf v s').mono fun _ _ _ => hes.append
  get h s := .get (h s s)
  log level message s := (keeps_log level message s).mono fun _ _ _ h => .of_nothing h.2
  perform c h s := (leads_perform c s).mono fun _ _ _ h' => h'.2.1 ▸ makesNone_callEvents h _

theorem makesNone_release (s : Session α σ) :
    (release : Play α σ Unit).Leads s fun _ es _ => MakesNone es := by
  refine closed_release closed_makesNone (fun _ => Call.makes_of_isRelease) (fun f s => ?_) s
  exact (leads_holdLease f s).mono fun _ es _ h => h.2.1 ▸ .of_nothing fun _ => rfl

/-- Without a display there is nothing to release. -/
theorem outcome_release {s : Session α σ} (h : s.lease.display = none) :
    (release : Play α σ Unit).outcome s = (.ok (), s) := by
  have hget : (get : Play α σ (Session α σ)).outcome s = (.ok s, s) := rfl
  unfold release
  rw [outcome_bind, hget]
  dsimp only
  rw [h]
  rfl

theorem leads_release_of_none {s : Session α σ} (h : s.lease.display = none) :
    (release : Play α σ Unit).Leads s fun r es s' => r = .ok () ∧ es = [] ∧ s' = s := by
  unfold Leads
  rw [outcome_release h]
  exact ⟨[], .refl s, rfl, rfl, rfl⟩

/-- The end of `n` is asked for, and nothing else happens to handles. -/
def Play.AsksEnd (m : Play α σ β) (kind : HandleKind) (n : Nat) : Prop :=
  ∀ s, m.Leads s fun _ es s' => s'.lease = s.lease ∧
    (∃ done, kind.doings es = [.ended n done]) ∧ ∀ other ≠ kind, other.doings es = []

theorem asksEnd_perform {kind : HandleKind} {c : Call α} {n : Nat} (h : kind.ends? c = some n) :
    (perform c : Play α σ c.Reply).AsksEnd kind n := by
  refine fun s => (leads_perform c s).mono fun _ es s' hc => ⟨hc.2.2.2, ?_, fun other ho => ?_⟩
  · obtain ⟨done, hd⟩ := kind.doing_of_ends h (Display.step c s.display).1.reply
    refine ⟨done, ?_⟩
    rw [hc.2.1, kind.doings_callEvents, hd]
    rfl
  · rw [hc.2.1, other.doings_callEvents, HandleKind.doing_other h ho]
    rfl

theorem asksEnd_orWarn {kind : HandleKind} {step : Play α σ Bool} {n : Nat}
    (h : step.AsksEnd kind n) (complaint : String) : (orWarn step complaint).AsksEnd kind n := by
  refine fun s => (h s).bind (fun _ _ _ h => h) fun done es s' hes => ?_
  obtain ⟨hl, ⟨done', hd⟩, ho⟩ := hes
  refine (closed_orWarn closed_keeps rfl (.pure done) complaint s').mono fun _ fs s'' hfs => ?_
  refine ⟨hfs.1.trans hl, ⟨done', ?_⟩, fun other hk => ?_⟩
  · rw [kind.doings_append, hd, hfs.2 kind]
    rfl
  · rw [other.doings_append, ho other hk, hfs.2 other]
    rfl

/-- A handle leaves the lease, and then its end is asked for. -/
theorem deals_giveUp (kind : HandleKind) {drop : Lease → Lease} {destroy : Nat → Play α σ Bool}
    (hdestroy : ∀ n, (destroy n).AsksEnd kind n) (hdrop : ∀ l, kind.held (drop l) = none)
    (hother : ∀ other ≠ kind, ∀ l, other.held (drop l) = other.held l) (complaint : String)
    (s : Session α σ) : (giveUp (kind.held s.lease) drop destroy complaint).Deals s := by
  cases hn : kind.held s.lease with
  | none => exact (Play.Keeps.pure ()).deals s
  | some n =>
    refine (leads_holdLease drop s).bind (fun _ _ _ h => by cases h.1) fun _ es s' h => ?_
    refine (asksEnd_orWarn (hdestroy n) complaint s').mono fun _ fs s'' h' other => ?_
    obtain ⟨hl, ⟨done, hd⟩, ho⟩ := h'
    rw [h.2.1, List.nil_append, hl, h.2.2.2]
    by_cases hk : other = kind
    · rw [hk, hn, hd, hdrop]
      exact .ended .nothing
    · rw [ho other hk, hother other hk]
      exact .nothing

theorem deals_release (s : Session α σ) : (release : Play α σ Unit).Deals s := by
  refine .get ?_
  cases s.lease.display with
  | none => exact (Play.Keeps.pure ()).deals s
  | some d =>
    refine (deals_holdLease (fun kind _ => by cases kind <;> rfl) s).bind fun _ s₁ => ?_
    have hunbind : (perform (.makeCurrent d none) : Play α σ Bool).Keeps :=
      keeps_perform (c := .makeCurrent d none) rfl
    refine ((closed_orWarn closed_keeps rfl hunbind _).deals s₁).bind fun _ s₂ => .get ?_
    refine (deals_giveUp .context (fun _ => asksEnd_perform rfl) (fun _ => rfl)
      (fun other ho _ => by cases other <;> trivial) _ s₂).bind fun _ s₃ => .get ?_
    refine (deals_giveUp .surface (fun _ => asksEnd_perform rfl) (fun _ => rfl)
      (fun other ho _ => by cases other <;> trivial) _ s₃).bind fun _ s₄ => ?_
    refine (deals_holdLease (fun kind _ => by cases kind <;> rfl) s₄).bind fun _ => ?_
    exact (keeps_log _ _).deals

/-- **What a release does to the lease and to handles.**  Where a crash cuts it short, handles may
be left that nobody holds any more. -/
theorem leads_release (s : Session α σ) :
    (release : Play α σ Unit).Leads s fun r es s' =>
      (∀ kind : HandleKind, Traded (kind.held s.lease) (kind.doings es) (kind.held s'.lease)) ∧
      MakesNone es ∧ match r with
        | .ok _ => s'.lease = s.lease.released
        | .error _ => Crashed es := by
  refine (((deals_release s).and (makesNone_release s)).and (returns_release s).leads).mono ?_
  rintro r es s' ⟨⟨hdeals, hmakes⟩, h⟩
  cases r with
  | ok _ => exact ⟨hdeals, hmakes, h.2⟩
  | error _ => exact ⟨hdeals, hmakes, h⟩

/-- **Every operation deals in handles only by its lease**, crash or no crash. -/
theorem deals_playOp (op : LeaseOp) (s : Session α σ) : op.play.Deals s := by
  cases op with
  | acquire w => exact (deals_acquire w s).bind fun _ => (Play.Keeps.pure ()).deals
  | ensureCurrent => exact (keeps_ensureCurrent.bind fun _ => .pure ()).deals s
  | present => exact (keeps_present.bind fun _ => .pure ()).deals s
  | release => exact deals_release s

end

end FireflyOverlay
