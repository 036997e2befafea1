import FireflyOverlay.Proofs.Lease.Accounts
import FireflyOverlay.Proofs.Renderer.States

/-!
# Where a crash breaks a run off

A crash is the last that a run does before it is taken down.

* `CrashesAfter pre es`   after `pre` a call crashed, and `es` ends with it, up to what the call has
                      logged and the requests that arrived meanwhile.  The crash neither makes nor
                      ends a handle, and publishes no state;
* `CrashesAfter.split`   of a trace that goes on after `es` every crash is that one or a later one;
* `Underway r es`     a stretch of a run that goes on or is broken off: no state `terminated`, and
                      no crash but at the end;
* `Play.GoesOn`       plays of such stretches, which are all but those that reach the end.
-/

namespace FireflyOverlay

variable {α σ β γ : Type}

/-! ## lists that are put together -/

/-- An element that does not occur in the first part occurs after it. -/
theorem exists_of_append_eq {l m pre later : List γ} {x : γ} (h : l ++ m = pre ++ x :: later)
    (hx : x ∉ l) : ∃ mid, pre = l ++ mid ∧ m = mid ++ x :: later := by
  rcases List.append_eq_append_iff.mp h with ⟨mid, rfl, hm⟩ | ⟨mid, rfl, hm⟩
  · exact ⟨mid, rfl, hm⟩
  · cases mid with
    | nil => exact ⟨[], by simp, hm.symm⟩
    | cons y mid =>
      obtain ⟨rfl, -⟩ := List.cons.inj hm
      exact absurd (List.mem_append_right _ List.mem_cons_self) hx

theorem not_crashed_nil : ¬ Crashed ([] : List (Event α)) := by
  rintro ⟨_, h⟩
  cases h

theorem not_crashed_append {es fs : List (Event α)} (h : ¬ Crashed es) (h' : ¬ Crashed fs) :
    ¬ Crashed (es ++ fs) := by
  rintro ⟨c, hc⟩
  rcases List.mem_append.mp hc with hc | hc
  · exact h ⟨c, hc⟩
  · exact h' ⟨c, hc⟩

theorem exists_call_of_crashes {es : List (Event α)} {n : Nat}
    (h : es[n]?.any Event.crashes = true) :
    ∃ c, es = es.take n ++ .call c none :: es.drop (n + 1) := by
  cases he : es[n]? with
  | none =>
    rw [he] at h
    cases h
  | some e =>
    rw [he] at h
    obtain ⟨hn, hget⟩ := List.getElem?_eq_some_iff.mp he
    have hes : es = es.take n ++ e :: es.drop (n + 1) := by
      rw [← hget, ← List.drop_eq_getElem_cons hn, List.take_append_drop]
    match e, h with
    | .call c none, _ => exact ⟨c, hes⟩

/-! ## a crash -/

/-- Neither a call nor a state. -/
def Event.isAside : Event α → Bool
  | .log _ | .request _ => true
  | .call _ _ | .state _ => false

def CrashesAfter (pre es : List (Event α)) : Prop :=
  ∃ c rest, es = pre ++ .call c none :: rest ∧ ¬ Crashed pre ∧ ∀ e ∈ rest, e.isAside = true

theorem reachedIn_asides {es : List (Event α)} (h : ∀ e ∈ es, e.isAside = true) :
    reachedIn es = [] := by
  refine List.filterMap_eq_nil_iff.mpr fun e he => ?_
  cases e with
  | log _ | request _ => rfl
  | call _ _ | state _ => exact Bool.noConfusion (h _ he)

theorem not_crashed_asides {es : List (Event α)} (h : ∀ e ∈ es, e.isAside = true) :
    ¬ Crashed es := fun ⟨_, hc⟩ => Bool.noConfusion (h _ hc)

theorem dealsAs_asides {es : List (Event α)} (h : ∀ e ∈ es, e.isAside = true) :
    DealsAs es [] := by
  refine fun kind => List.filterMap_eq_nil_iff.mpr fun e he => ?_
  cases e with
  | log _ | request _ => cases kind <;> rfl
  | call _ _ | state _ => exact Bool.noConfusion (h _ he)

theorem isAside_of_mem_requestEvents {r : Requests} {e : Event α} (h : e ∈ requestEvents r) :
    e.isAside = true := by
  unfold requestEvents at h
  split at h
  · cases h
  · rw [List.mem_singleton.mp h]
    rfl

/-- What a call says besides its answer. -/
theorem isAside_of_mem_callEvents {c : Call α} {r : Reaction c.Reply} {e : Event α}
    (h : e ∈ r.logs.map Event.log ++ requestEvents r.requests) : e.isAside = true := by
  rcases List.mem_append.mp h with h | h
  · obtain ⟨record, -, rfl⟩ := List.mem_map.mp h
    rfl
  · exact isAside_of_mem_requestEvents h

/-- A call that crashes may be one for the end of a handle; that handle stays live. -/
theorem HandleKind.live_crash (kind : HandleKind) (c : Call α) (l : Ledger) :
    (l.after (kind.doings [.call c none])).live = l.live := by
  cases kind <;> cases c <;> rfl

namespace CrashesAfter

variable {gs pre es : List (Event α)}

theorem prepend (hg : ¬ Crashed gs) (h : CrashesAfter pre es) :
    CrashesAfter (gs ++ pre) (gs ++ es) := by
  obtain ⟨c, rest, rfl, hpre, hrest⟩ := h
  exact ⟨c, rest, (List.append_assoc ..).symm, not_crashed_append hg hpre, hrest⟩

theorem vacant_iff (h : CrashesAfter pre es) : Vacant es ↔ Vacant pre := by
  obtain ⟨c, rest, rfl, -, hrest⟩ := h
  rw [List.append_cons, vacant_append_nothing (dealsAs_asides hrest)]
  refine forall_congr' fun kind => ?_
  rw [kind.account_append, kind.live_crash]

theorem state_eq (h : CrashesAfter pre es) (c : Control) :
    (c.after es).state = (c.after pre).state := by
  obtain ⟨call, rest, rfl, -, hrest⟩ := h
  have hreached : reachedIn (.call call none :: rest) = [] :=
    (List.filterMap_cons_none rfl).trans (reachedIn_asides hrest)
  rw [Control.state_after, Control.state_after, reachedIn_append, hreached, List.append_nil]

/-- Every crash of a longer trace. -/
theorem split (h : CrashesAfter pre es) {down before later : List (Event α)} {c : Call α}
    (he : es ++ down = before ++ .call c none :: later) :
    before = pre ∧ (∃ rest, later = rest ++ down) ∨
      ∃ mid, before = es ++ mid ∧ down = mid ++ .call c none :: later := by
  obtain ⟨first, rest, rfl, hpre, hrest⟩ := h
  rw [List.append_assoc] at he
  obtain ⟨mid, rfl, hmid⟩ := exists_of_append_eq he fun hc => hpre ⟨c, hc⟩
  cases mid with
  | nil =>
    obtain ⟨-, hlater⟩ := List.cons.inj hmid
    exact .inl ⟨List.append_nil _, rest, hlater.symm⟩
  | cons e mid =>
    obtain ⟨rfl, htail⟩ := List.cons.inj hmid
    obtain ⟨mid', rfl, hdown⟩ := exists_of_append_eq htail fun hc => Bool.noConfusion (hrest _ hc)
    exact .inr ⟨mid', by simp, hdown⟩

end CrashesAfter

/-! ## stretches of a run -/

structure Underway (r : Except Crash β) (es : List (Event α)) : Prop where
  unpublished : .terminated ∉ reachedIn es
  broken : match r with
    | .ok _ => ¬ Crashed es
    | .error _ => ∃ pre, CrashesAfter pre es

theorem Underway.prepend {v : β} {r : Except Crash γ} {es fs : List (Event α)}
    (h : Underway (.ok v) es) (h' : Underway r fs) : Underway r (es ++ fs) where
  unpublished := by
    rw [reachedIn_append, List.mem_append, not_or]
    exact ⟨h.unpublished, h'.unpublished⟩
  broken := by
    have hes : ¬ Crashed es := h.broken
    have hfs := h'.broken
    cases r with
    | ok _ => exact not_crashed_append hes hfs
    | error _ =>
      obtain ⟨pre, hpre⟩ := hfs
      exact ⟨es ++ pre, hpre.prepend hes⟩

theorem underway_asides {v : β} {es : List (Event α)} (h : ∀ e ∈ es, e.isAside = true) :
    Underway (.ok v) es where
  unpublished := by
    rw [reachedIn_asides h]
    exact List.not_mem_nil
  broken := not_crashed_asides h

theorem published_of_state {es : List (Event α)}
    (h : (Control.initial.after es).state = .terminated) : .terminated ∈ reachedIn es := by
  have hmem := Lifecycle.foldl_later_mem Control.initial.state (reachedIn es)
  rw [← Control.state_after, h] at hmem
  exact (List.mem_cons.mp hmem).resolve_left nofun

/-! ## plays that go on -/

section
variable [Display α σ]

def Play.GoesOn (m : Play α σ β) : Prop := ∀ s, m.Leads s fun r es _ => Underway r es

open Play

theorem goesOn_perform (c : Call α) : (perform c : Play α σ c.Reply).GoesOn := by
  refine fun s => (leads_perform c s).mono fun r es _ h => ?_
  obtain ⟨hreply, rfl, -, -⟩ := h
  refine ⟨by rw [reachedIn_callEvents]; exact List.not_mem_nil, ?_⟩
  rw [callEvents, List.append_assoc, ← hreply]
  cases r with
  | error _ =>
    exact ⟨[], c, _, rfl, not_crashed_nil, fun e => isAside_of_mem_callEvents⟩
  | ok v =>
    refine not_crashed_append ?_ (not_crashed_asides fun e => isAside_of_mem_callEvents)
    rintro ⟨_, hc⟩
    cases List.mem_singleton.mp hc

theorem goesOn_log (level : Level) (message : String) :
    (log level message : Play α σ Unit).GoesOn := by
  refine fun s => (leads_log level message s).mono fun r es _ h => ?_
  rw [h.1, h.2.1]
  exact underway_asides fun e he => by rw [List.mem_singleton.mp he]; rfl

theorem goesOn_holdLease (f : Lease → Lease) : (holdLease f : Play α σ Unit).GoesOn := by
  refine fun s => (leads_holdLease f s).mono fun r es _ h => ?_
  rw [h.1, h.2.1]
  exact underway_asides nofun

theorem goesOn_request (r : Requests) : (request r : Play α σ Unit).GoesOn := by
  refine fun s => (leads_request r s).mono fun r' es _ h => ?_
  rw [h.1, h.2.1]
  exact underway_asides fun e => isAside_of_mem_requestEvents

theorem goesOn_reach {state : Lifecycle} (h : state ≠ .terminated) :
    (reach state : Play α σ Unit).GoesOn := by
  refine fun s => (leads_reach state s).mono fun r es _ hs => ?_
  obtain ⟨rfl, -, -, hes⟩ := hs
  split at hes
  · obtain ⟨record, rfl⟩ := hes
    exact ⟨fun hm => h (List.mem_singleton.mp hm).symm, by simp [Crashed]⟩
  · rw [hes]
    exact underway_asides nofun

theorem closed_goesOn : Closed (fun _ (m : Play α σ _) => m.GoesOn) fun _ => True where
  pure _ := fun _ => .pure (underway_asides nofun)
  bind h hf s := (h s).bind (fun _ _ _ h => ⟨h.unpublished, h.broken⟩) fun v _ s' hes =>
    (hf v s').mono fun _ _ _ => hes.prepend
  get h s := .get (h s s)
  log := goesOn_log
  perform c _ := goesOn_perform c

theorem goesOn_acquire (w : WindowId) :
    (acquire w : Play α σ (Except DisplayError Unit)).GoesOn :=
  closed_acquire closed_goesOn (fun _ _ => trivial) goesOn_holdLease w

theorem goesOn_release : (release : Play α σ Unit).GoesOn :=
  closed_release closed_goesOn (fun _ _ => trivial) goesOn_holdLease

end
end FireflyOverlay
