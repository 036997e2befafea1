import FireflyOverlay.Proofs.Renderer.Trace

/-!
# Acquired once, released once

Every run, however it ends, makes its calls in one order: an acquisition up to its first step that
fails; if none did, draw calls that prepare, and frames; then one teardown, which destroys what was
created and nothing else.

* `FrameActs`            frames: a binding that may be renewed, draw calls, a swap;
* `Handles.teardown k`   the calls that undo the first `k` steps of an acquisition;
* `RunActs`              the parts of a run, in their order;
* `acts_life`            every run has them, and nothing else.
-/

namespace FireflyOverlay

variable {α σ : Type}

/-! ## the parts of a run -/

/-- What undoes the first `k` steps of an acquisition. -/
def Handles.teardown (h : Handles) (k : Nat) : List (Call α) :=
  (if 1 ≤ k then [.makeCurrent h.display none] else []) ++
  (if 4 ≤ k then [.destroyContext h.display h.context] else []) ++
  (if 5 ≤ k then [.destroySurface h.display h.surface] else [])

/-- The binding is renewed, or nothing is done for it. -/
def Rebinding (h : Handles) (xs : List (Exchange α)) : Prop :=
  xs = [] ∨ xs = [⟨.makeCurrent h.display (some h.binding), true⟩]

inductive FrameActs (h : Handles) : List (Exchange α) → Exit → Prop
  | stopped : FrameActs h [] .stopped
  | lost (e) : FrameActs h [⟨.makeCurrent h.display (some h.binding), false⟩] (.contextLost e)
  | unpresented {bound ds} (e) (hb : Rebinding h bound) (hd : AllDraws ds) :
    FrameActs h (bound ++ ds ++ [⟨.swapBuffers h.display h.surface, false⟩]) (.presentFailed e)
  | frame {bound ds rest exit} (hb : Rebinding h bound) (hd : AllDraws ds)
    (hr : FrameActs h rest exit) :
    FrameActs h (bound ++ ds ++ [⟨.swapBuffers h.display h.surface, true⟩] ++ rest) exit

/-- An acquisition, draw calls, frames and the teardown.  Where the step after the first `k` is
refused, there are no draw calls and no frames. -/
inductive RunActs (w : WindowId) :
    (begun prep frames teardown : List (Exchange α)) → Exit → Prop
  | refused {h : Handles} {k x asked e teardown}
    (hk : ((h.steps w).map Exchange.call)[k]? = some x.call) (hx : Refusal (x :: asked) e)
    (ht : teardown.map Exchange.call = h.teardown k) :
    RunActs w ((h.steps w).take k ++ [x]) [] [] teardown (.initFailed e)
  | ran {h : Handles} {prep frames teardown exit} (hp : AllDraws prep)
    (hf : FrameActs h frames exit) (ht : teardown.map Exchange.call = h.teardown 6) :
    RunActs w (h.steps w) prep frames teardown exit

/-! ## reading them off the trace -/

theorem Refusal.filter_isQuery {x : Exchange α} {xs : List (Exchange α)} {e : DisplayError}
    (h : Refusal (x :: xs) e) : (x :: xs).filter (fun y => !y.call.isQuery) = [x] := by
  cases h <;> rfl

theorem Handles.filter_take_steps (h : Handles) (w : WindowId) (k : Nat) :
    ((h.steps w).take k : List (Exchange α)).filter (fun y => !y.call.isQuery)
      = (h.steps w).take k := by
  rw [List.filter_eq_self]
  intro x hx
  have hm := List.mem_of_mem_take hx
  simp only [Handles.steps, List.mem_cons, List.not_mem_nil, or_false] at hm
  rcases hm with rfl | rfl | rfl | rfl | rfl | rfl <;> rfl

theorem Handles.releaseCalls_hold (h : Handles) (k : Nat) :
    ((h.hold k .empty).releaseCalls : List (Call α)) = h.teardown k := by
  unfold Lease.releaseCalls Handles.hold Handles.teardown
  by_cases h1 : 1 ≤ k
  · by_cases h4 : 4 ≤ k <;> by_cases h5 : 5 ≤ k <;> simp [h1, h4, h5, Lease.empty]
  · have h4 : ¬ 4 ≤ k := by omega
    have h5 : ¬ 5 ≤ k := by omega
    simp [h1, h4, h5, Lease.empty]

theorem Asked.filter_isQuery {b : Binding} {xs : List (Exchange α)} {r : Bool}
    (h : Asked b xs r) : xs.filter (fun y => !y.call.isQuery) = [] := by
  cases h <;> rfl

theorem Ensured.rebinding {h : Handles} {es : List (Event α)}
    (he : Ensured h.display h.binding (exchanges es) (.ok ())) : Rebinding h (acts es) := by
  unfold acts
  generalize exchanges es = xs at he
  cases he with
  | current ha => exact .inl ha.filter_isQuery
  | rebound ha =>
    rw [List.filter_append, ha.filter_isQuery]
    exact .inr rfl

theorem acts_requestEvents (r : Requests) : acts (requestEvents (α := α) r) = [] := by
  rw [acts, exchanges_requestEvents]
  rfl

theorem acts_frameEvents (r : Requests) (ready setup lights shown : List (Event α)) :
    acts (frameEvents r ready setup lights shown)
      = acts ready ++ (acts setup ++ acts lights) ++ acts shown := by
  simp only [frameEvents, acts_append, acts_requestEvents, List.nil_append, List.append_assoc]

theorem RunActs.teardown_eq_nil {w : WindowId} {begun prep frames teardown : List (Exchange α)}
    {exit : Exit} (h : RunActs w begun prep frames teardown exit) :
    teardown = [] ↔ begun = [⟨.defaultDisplay, none⟩] := by
  cases h with
  | @refused h k x asked e teardown hk hx ht =>
    rw [← List.map_eq_nil_iff (f := Exchange.call), ht]
    cases k with
    | zero =>
      refine ⟨fun _ => ?_, fun _ => rfl⟩
      have hc : Call.defaultDisplay = x.call := Option.some.inj hk
      cases hx <;> first | rfl | cases hc
    | succ k =>
      refine ⟨fun hn => ?_, fun hn => ?_⟩
      · simp [Handles.teardown] at hn
      · simp [Handles.steps] at hn
  | @ran h prep frames teardown exit hp hf ht =>
    rw [← List.map_eq_nil_iff (f := Exchange.call), ht]
    refine ⟨fun hn => ?_, fun hn => ?_⟩
    · simp [Handles.teardown] at hn
    · simp [Handles.steps] at hn

variable [Scalar α] [Trig α]

/-- the calls of a frame up to its swap -/
theorem Drawn.acts {h : Handles} {elapsed : Nat} {c : Control} {scene scene' : Scene α}
    {ready setup lights : List (Event α)}
    (hd : Drawn h.display h.binding elapsed c scene scene' ready setup lights) :
    Rebinding h (acts ready) ∧ AllDraws (acts setup ++ acts lights) :=
  ⟨hd.ensured.rebinding, hd.cleared.allDraws.acts.append hd.drawn.allDraws.acts⟩

theorem Loop.frameActs {h : Handles} {ticks : List Tick} {c : Control} {scene : Scene α}
    {seen : List Bool} {es : List (Event α)} {exit : Exit}
    (hl : Loop h.display h.binding ticks c scene seen es exit) : FrameActs h (acts es) exit := by
  induction hl with
  | finished => rw [acts_requestEvents]; exact .stopped
  | stopped _ => rw [acts_requestEvents]; exact .stopped
  | @lost t ticks c scene ready e _ _ hr =>
    obtain ⟨asked, code, hx, ha, rfl⟩ := hr.eq_lost
    rw [acts_append, acts_requestEvents, List.nil_append, acts_of_exchanges hx,
      List.filter_append, ha.filter_isQuery]
    exact .lost _
  | @unpresented t ticks c scene scene' ready setup lights shown e _ hd hp =>
    obtain ⟨code, hx, rfl⟩ := hp.eq_refused
    rw [acts_frameEvents, acts_of_exchanges hx]
    exact .unpresented _ hd.acts.1 hd.acts.2
  | @frame t ticks c scene scene' ready setup lights shown seen es exit _ hd hp _ ih =>
    rw [acts_append, acts_frameEvents, acts_of_exchanges hp.eq_shown]
    exact .frame hd.acts.1 hd.acts.2 ih

/-! ## the shape of a run -/

theorem RunTrace.acts {r : Renderer α} {ticks : List Tick} {c : Control} {es : List (Event α)}
    {exit : Exit} (h : RunTrace r ticks c es exit) : ∃ begun prep frames teardown,
      acts es = begun ++ prep ++ frames ++ teardown ∧
      RunActs r.window begun prep frames teardown exit := by
  obtain ⟨work, down, l, rfl, hw, hl⟩ := h
  have hd : (FireflyOverlay.acts down).map Exchange.call = l.releaseCalls := hl.calls
  cases hw with
  | @refused _ e _ ha =>
    generalize hx : exchanges work = xs at ha
    cases ha with
    | refused h k x xs _ hk hr =>
      rw [h.releaseCalls_hold] at hd
      refine ⟨_, [], [], FireflyOverlay.acts down, ?_, .refused hk hr hd⟩
      rw [acts_append, acts_of_exchanges hx, List.filter_append, h.filter_take_steps,
        hr.filter_isQuery]
      simp
  | @ran acq prep loop _ h texture seen ha hp hloop =>
    rw [h.releaseCalls_hold] at hd
    refine ⟨_, _, _, _, ?_, .ran hp.allDraws.acts hloop.frameActs hd⟩
    have hs : FireflyOverlay.acts acq = h.steps r.window := by
      rw [acts_of_exchanges ha]
      exact h.filter_take_steps r.window 6
    rw [acts_append, acts_append, acts_append, hs]

/-- **A run acquires once and releases once.**  Unless a call crashes, the run returns; its calls
are an acquisition up to its first step that fails, draw calls and frames if none failed, and one
teardown that undoes the steps which succeeded.  The teardown is empty only where there is no
display. -/
theorem acts_life [Display α σ] (r : Renderer α) (before : Requests) (ticks : List Tick)
    (display : σ) :
    Crashed (r.life before ticks display).2.trace.toList ∨
      ∃ exit begun prep frames teardown, (r.life before ticks display).1 = .ok exit ∧
        acts (r.life before ticks display).2.trace.toList = begun ++ prep ++ frames ++ teardown ∧
        RunActs r.window begun prep frames teardown exit ∧
        (teardown = [] ↔ begun = [⟨.defaultDisplay, none⟩]) := by
  rcases life_cases r before ticks display with h | ⟨exit, es, he, ht, hr⟩
  · exact .inl h
  · obtain ⟨begun, prep, frames, teardown, ha, hp⟩ := hr.acts
    refine .inr ⟨exit, begun, prep, frames, teardown, he, ?_, hp, hp.teardown_eq_nil⟩
    rw [ht, acts_append, acts_requestEvents, ha, List.nil_append]

end FireflyOverlay
