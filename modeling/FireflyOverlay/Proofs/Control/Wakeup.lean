import FireflyOverlay.Wakeup
import Mathlib.Data.List.Basic

/-!
# No lost wake-up

A stop request can land anywhere in the round of the worker: before it has announced itself, between
its two tests, between the second test and the wait, or while it waits; and several requests can be
at work at once.

* `Wakeup.Consistent`   a worker that goes to wait although the flag is up has a token, or one is
                        coming.  Every step keeps this (`consistent_step`), so every run does
                        (`consistent_run`);
* `Wakeup.Released`     the flag is up, and a worker that goes to wait has a token.  Steps keep this
                        too, and each of the worker's own brings it nearer to its end
                        (`released_step`, `released_run`);
* `Wakeup.WakeupLaws`   what a stop request can rely on;
* `Wakeup.wakeupLaws`   it holds in every state that steps lead to.
-/

namespace FireflyOverlay
namespace Wakeup

/-- After its second test the worker goes to wait, whatever the flag says from then on. -/
def Worker.isSettled : Worker → Bool
  | .settling | .waiting => true
  | .announcing | .testing | .drawing | .done => false

variable {s t : State}

theorem isSettled_of_isBlocked (h : isBlocked s = true) :
    s.worker.isSettled = true ∧ s.token = false := by
  obtain ⟨hw, ht⟩ := Bool.and_eq_true_iff.mp h
  exact ⟨by rw [beq_iff_eq.mp hw]; rfl, by simpa using ht⟩

theorem timeout_eq_some :
    step? .timeout s = some t ↔ s.worker = .waiting ∧ { s with worker := .testing } = t := by
  rw [step?, Option.ite_none_right_eq_some, Option.some.injEq]

theorem skip_eq_some :
    step? .skip s = some t ↔ s.worker = .drawing ∧ { s with worker := .testing } = t := by
  rw [step?, Option.ite_none_right_eq_some, Option.some.injEq]

theorem run?_cons_eq_some {m : Move} {moves : List Move} :
    run? (m :: moves) s = some t ↔ ∃ u, step? m s = some u ∧ run? moves u = some t := by
  rw [run?_cons, Option.bind_eq_some_iff]

/-! ## what every step keeps -/

structure Consistent (s : State) : Prop where
  /-- the flag tells of the requests -/
  raised : s.stop = true ↔ ∃ r ∈ s.requests, r ≠ .raising
  /-- a worker that a request does not find has not begun -/
  unannounced : s.announced = false → s.worker = .announcing
  woken : s.stop = true → s.worker.isSettled = true →
    s.token = true ∨ ∃ r ∈ s.requests, isUnderway r = true

theorem consistent_initial (n : Nat) : Consistent (initial n) where
  raised := ⟨nofun, fun ⟨_, hr, hne⟩ => absurd (List.eq_of_mem_replicate hr) hne⟩
  unannounced _ := rfl
  woken := nofun

/-- A worker on its way to a test needs nobody to wake it. -/
theorem Consistent.awake (h : Consistent s) {w : Worker} {announced token : Bool}
    (ha : announced = false → w = .announcing) (hw : w.isSettled = false) :
    Consistent { s with worker := w, announced := announced, token := token } where
  raised := h.raised
  unannounced := ha
  woken _ hp := absurd hp (by simp [hw])

theorem consistent_worker (h : Consistent s) (hs : moveWorker s = some t) : Consistent t := by
  have begun : s.worker ≠ .announcing → ∀ w, s.announced = false → w = Worker.announcing :=
    fun hw w ha => absurd (h.unannounced ha) hw
  unfold moveWorker at hs
  cases hw : s.worker with
  | announcing =>
    simp only [hw, Option.some.injEq] at hs
    subst hs
    exact h.awake nofun rfl
  | testing =>
    simp only [hw, Option.some.injEq] at hs
    subst hs
    exact h.awake (begun (by simp [hw]) _) (by split <;> rfl)
  | drawing =>
    simp only [hw, Option.some.injEq] at hs
    subst hs
    by_cases hstop : s.stop = true
    · rw [if_pos hstop]
      exact h.awake (begun (by simp [hw]) _) rfl
    · -- the flag is down: whoever raises it from here on finds the worker
      exact ⟨h.raised, begun (by simp [hw]) _, fun hup => absurd hup hstop⟩
  | settling =>
    simp only [hw, Option.some.injEq] at hs
    subst hs
    exact ⟨h.raised, begun (by simp [hw]) _, fun hup _ => h.woken hup (by rw [hw]; rfl)⟩
  | waiting =>
    simp only [hw, Option.ite_none_right_eq_some, Option.some.injEq] at hs
    obtain ⟨-, rfl⟩ := hs
    exact h.awake (begun (by simp [hw]) _) rfl
  | done => simp [hw] at hs

/-- After a step of a request the flag is up. -/
theorem consistent_request (h : Consistent s) {i : Nat} (hs : moveRequest s i = some t) :
    Consistent t := by
  unfold moveRequest at hs
  cases hr : s.requests[i]? with
  | none => simp [hr] at hs
  | some r =>
    have hmem : r ∈ s.requests := List.mem_of_getElem? hr
    have hset : ∀ x, x ∈ s.requests.set i x :=
      fun x => List.mem_set (List.getElem?_eq_some_iff.mp hr).1 x
    cases r with
    | raising =>
      simp only [hr, Option.some.injEq] at hs
      subst hs
      exact ⟨iff_of_true rfl ⟨.looking, hset _, nofun⟩, h.unannounced,
        fun _ _ => .inr ⟨.looking, hset _, rfl⟩⟩
    | looking =>
      have hup : s.stop = true := h.raised.mpr ⟨.looking, hmem, nofun⟩
      simp only [hr, Option.some.injEq] at hs
      subst hs
      cases ha : s.announced with
      | true =>
        exact ⟨iff_of_true hup ⟨.handing, hset _, nofun⟩, by simp,
          fun _ _ => .inr ⟨.handing, hset _, rfl⟩⟩
      | false =>
        -- no token is due: the worker has both tests ahead of it
        have hw := h.unannounced ha
        exact ⟨iff_of_true hup ⟨.done, hset _, nofun⟩, fun _ => hw,
          fun _ hp => absurd hp (by simp [hw, Worker.isSettled])⟩
    | handing =>
      have hup : s.stop = true := h.raised.mpr ⟨.handing, hmem, nofun⟩
      simp only [hr, Option.some.injEq] at hs
      subst hs
      exact ⟨iff_of_true hup ⟨.done, hset _, nofun⟩, h.unannounced, fun _ _ => .inl rfl⟩
    | done => simp [hr] at hs

theorem consistent_step (h : Consistent s) {m : Move} (hs : step? m s = some t) :
    Consistent t := by
  cases m with
  | worker => exact consistent_worker h hs
  | timeout =>
    obtain ⟨hw, rfl⟩ := timeout_eq_some.mp hs
    exact h.awake (fun ha => absurd (h.unannounced ha) (by simp [hw])) rfl
  | skip =>
    obtain ⟨hw, rfl⟩ := skip_eq_some.mp hs
    exact h.awake (fun ha => absurd (h.unannounced ha) (by simp [hw])) rfl
  | request i => exact consistent_request h hs

theorem consistent_run {moves : List Move} (h : Consistent s) (hr : run? moves s = some t) :
    Consistent t := by
  induction moves generalizing s with
  | nil => exact Option.some.inj hr ▸ h
  | cons m moves ih =>
    obtain ⟨u, hu, hr⟩ := run?_cons_eq_some.mp hr
    exact ih (consistent_step h hu) hr

/-! ## when the requests have returned -/

structure Released (s : State) : Prop where
  stop : s.stop = true
  token : s.worker.isSettled = true → s.token = true

theorem Consistent.released (h : Consistent s) (hs : s.stop = true)
    (returned : ∀ r ∈ s.requests, isUnderway r = false) : Released s where
  stop := hs
  token hp := (h.woken hs hp).resolve_right fun ⟨r, hr, hu⟩ => by simp [returned r hr] at hu

/-- The steps that the worker makes, other than those of the requests. -/
def Move.isWorkers : Move → Bool
  | .worker | .timeout | .skip => true
  | .request _ => false

/-- How many steps the worker still makes when it meets the flag at every test, and a token at its
wait. -/
def Worker.stepsLeft : Worker → Nat
  | .announcing => 2
  | .testing => 1
  | .drawing => 2
  | .settling => 3
  | .waiting => 2
  | .done => 0

theorem released_step (h : Released s) {m : Move} (hs : step? m s = some t) :
    Released t ∧ t.worker.stepsLeft + (if m.isWorkers then 1 else 0) = s.worker.stepsLeft := by
  obtain ⟨hup, htoken⟩ := h
  cases m with
  | worker =>
    simp only [step?, moveWorker] at hs
    cases hw : s.worker with
    | announcing =>
      simp only [hw, Option.some.injEq] at hs
      subst hs
      exact ⟨⟨hup, nofun⟩, rfl⟩
    | testing =>
      simp only [hw, hup, Option.some.injEq] at hs
      subst hs
      exact ⟨⟨rfl, nofun⟩, rfl⟩
    | drawing =>
      simp only [hw, hup, Option.some.injEq] at hs
      subst hs
      exact ⟨⟨rfl, nofun⟩, rfl⟩
    | settling =>
      simp only [hw, Option.some.injEq] at hs
      subst hs
      exact ⟨⟨hup, fun _ => htoken (by rw [hw]; rfl)⟩, rfl⟩
    | waiting =>
      simp only [hw, Option.ite_none_right_eq_some, Option.some.injEq] at hs
      obtain ⟨-, rfl⟩ := hs
      exact ⟨⟨hup, nofun⟩, rfl⟩
    | done => simp [hw] at hs
  | timeout =>
    obtain ⟨hw, rfl⟩ := timeout_eq_some.mp hs
    exact ⟨⟨hup, nofun⟩, by rw [hw]; rfl⟩
  | skip =>
    obtain ⟨hw, rfl⟩ := skip_eq_some.mp hs
    exact ⟨⟨hup, nofun⟩, by rw [hw]; rfl⟩
  | request i =>
    simp only [step?, moveRequest] at hs
    split at hs
    · obtain rfl := Option.some.inj hs
      exact ⟨⟨rfl, htoken⟩, rfl⟩
    · obtain rfl := Option.some.inj hs
      exact ⟨⟨hup, htoken⟩, rfl⟩
    · obtain rfl := Option.some.inj hs
      exact ⟨⟨hup, fun _ => rfl⟩, rfl⟩
    · cases hs
    · cases hs

theorem released_run {moves : List Move} (h : Released s) (hr : run? moves s = some t) :
    Released t ∧ t.worker.stepsLeft + moves.countP Move.isWorkers = s.worker.stepsLeft := by
  induction moves generalizing s with
  | nil => obtain rfl := Option.some.inj hr; exact ⟨h, rfl⟩
  | cons m moves ih =>
    obtain ⟨u, hu, hr⟩ := run?_cons_eq_some.mp hr
    obtain ⟨hrel, hleft⟩ := released_step h hu
    obtain ⟨hend, hcount⟩ := ih hrel hr
    refine ⟨hend, ?_⟩
    rw [List.countP_cons, ← hleft, ← hcount, Nat.add_assoc]

theorem Released.not_isBlocked (h : Released s) : isBlocked s = false := by
  refine Bool.eq_false_iff.mpr fun hb => ?_
  obtain ⟨hp, ht⟩ := isSettled_of_isBlocked hb
  rw [h.token hp] at ht
  cases ht

/-- A released worker can go on until it is done. -/
theorem Released.able (h : Released s) (hd : s.worker ≠ .done) :
    ∃ t, step? .worker s = some t := by
  simp only [step?, moveWorker]
  cases hw : s.worker with
  | waiting =>
    have ht : s.token = true := h.token (by rw [hw]; rfl)
    exact ⟨_, if_pos ht⟩
  | done => exact absurd hw hd
  | announcing | testing | drawing | settling => exact ⟨_, rfl⟩

/-! ## the laws -/

/-- From `s` some steps lead to `t`, and the worker comes to its end. -/
structure Ending (s t : State) (moves : List Move) : Prop where
  stop : t.stop = true
  awake : isBlocked t = false
  able : t.worker ≠ .done → ∃ u, step? .worker t = some u
  /-- the test that begins a frame is the last one -/
  test : t.worker = .testing → step? .worker t = some { t with worker := .done }
  /-- the second test leads back to the first, with no wait -/
  retest : t.worker = .drawing → step? .worker t = some { t with worker := .testing }
  /-- the worker is done after its next steps, three at most -/
  steps : t.worker.stepsLeft + moves.countP Move.isWorkers = s.worker.stepsLeft

theorem Released.ending (h : Released s) {moves : List Move} (hr : run? moves s = some t) :
    Ending s t moves := by
  obtain ⟨ht, hsteps⟩ := released_run h hr
  exact {
    stop := ht.stop
    awake := ht.not_isBlocked
    able := ht.able
    test := fun hw => by simp [step?, moveWorker, hw, ht.stop]
    retest := fun hw => by simp [step?, moveWorker, hw, ht.stop]
    steps := hsteps }

structure WakeupLaws (s : State) : Prop where
  raised : s.stop = true ↔ ∃ r ∈ s.requests, r ≠ .raising
  /-- a request that has raised the flag is about to leave a token for a blocked worker -/
  coming : s.stop = true → isBlocked s = true → ∃ r ∈ s.requests, isUnderway r = true
  /-- once the requests that were made have returned, the worker comes to its end, whatever else
  happens -/
  ending : .done ∈ s.requests → (∀ r ∈ s.requests, isUnderway r = false) →
    ∀ moves t, run? moves s = some t → Ending s t moves

/-- **No wake-up is lost**, in no order of the steps and with any number of requests. -/
theorem wakeupLaws {n : Nat} {moves : List Move} (ran : run? moves (initial n) = some s) :
    WakeupLaws s := by
  have h := consistent_run (consistent_initial n) ran
  refine ⟨h.raised, fun hup hb => ?_, fun hdone returned moves t hr => ?_⟩
  · obtain ⟨hp, ht⟩ := isSettled_of_isBlocked hb
    exact (h.woken hup hp).resolve_left (by simp [ht])
  · have hup : s.stop = true := h.raised.mpr ⟨.done, hdone, nofun⟩
    exact (h.released hup returned).ending hr

/-- The flag goes up between the second test and the wait, while another request has yet to
begin. -/
theorem wakeupLaws_late : ∃ s, run? [.worker, .worker, .worker, .request 1, .worker] (initial 2) =
    some s ∧ s.stop = true ∧ isBlocked s = true ∧ WakeupLaws s :=
  ⟨⟨true, true, false, .waiting, [.raising, .looking]⟩, by decide, rfl, rfl,
    @wakeupLaws _ 2 [.worker, .worker, .worker, .request 1, .worker] (by decide)⟩

end Wakeup
end FireflyOverlay
