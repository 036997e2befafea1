import FireflyOverlay.Proofs.Scalar.Scaled
import FireflyOverlay.Proofs.Swarm.Stream

/-!
# Phases

The time of a phase counts down, and is cut to 64 bits on the way.  When it falls short, the firefly
turns once and a whole phase begins, however much time has elapsed.

* `IsPhaseTime`         the whole numbers of 64 bits, with a sign;
* `Firefly.CountsDown`  what an update makes of phase, direction, heading and stream;
* `Firefly.FitsWords`   no whole number of an update is too great or too small for its word;
* `Leg`, `Firefly.fly`  an update that is not fading, and a flight of several of them;
* `phase_fly`           the phase times of a flight stay between 0 and a whole phase, or the first
                        one if this is longer;
* `shrinking_fly`       the direction of scaling turns with every unit that a flight takes;
* `Firefly.StaysInPhase`   no leg of a flight ends the phase; its time is taken in full;
* `Swarm.phase_run`     the phase times of a swarm, whatever resets and frames there were.
-/

namespace FireflyOverlay
open Scalar

/-- The range of a phase time. -/
def IsPhaseTime (n : Int) : Prop := phaseFloor ≤ n ∧ n ≤ phaseCeiling

theorem isPhaseTime_iff {n : Int} :
    IsPhaseTime n ↔ -0x8000000000000000 ≤ n ∧ n ≤ 0x7fffffffffffffff := Iff.rfl

namespace Firefly

variable {α : Type} [Scalar α]

/-! ## one update -/

/-- As long as the phase lasts, its time counts down.  One that falls short is made good by a single
turn, with a heading from the next unit. -/
structure CountsDown (f : Firefly α) (units : Units α) (elapsed : Nat) (g : Firefly α)
    (rest : Units α) : Prop where
  lasts : 0 ≤ f.phase - min (elapsed : Int) phaseCeiling →
    g.phase = f.phase - min (elapsed : Int) phaseCeiling ∧ g.shrinking = f.shrinking ∧
      g.heading = f.heading ∧ rest = units
  turns : f.phase - min (elapsed : Int) phaseCeiling < 0 →
    g.phase = 1250 ∧ g.shrinking = !f.shrinking ∧ g.heading = units.next.1 * 360 ∧
      rest = units.next.2

/-- All whole numbers of an update: the elapsed time as it is counted, what it leaves, and the phase
time in the end.  Only from a phase time below -1 may the difference have to be cut. -/
structure FitsWords (f : Firefly α) (elapsed : Nat) (g : Firefly α) : Prop where
  counted : IsPhaseTime (min (elapsed : Int) phaseCeiling)
  left : IsPhaseTime (phaseAfter f.phase elapsed)
  exact : -1 ≤ f.phase →
    phaseAfter f.phase elapsed = f.phase - min (elapsed : Int) phaseCeiling
  phase : IsPhaseTime g.phase

omit [Scalar α] in
theorem expires_iff {f : Firefly α} {elapsed : Nat} :
    f.expires elapsed = true ↔ f.phase - min (elapsed : Int) phaseCeiling < 0 := by
  rw [sub_neg]
  exact decide_eq_true_iff

theorem phaseAfter_eq {phase : Int} (h : -1 ≤ phase) (elapsed : Nat) :
    phaseAfter phase elapsed = phase - min (elapsed : Int) phaseCeiling := by
  unfold phaseAfter phaseFloor phaseCeiling
  omega

theorem isPhaseTime_counted (elapsed : Nat) : IsPhaseTime (min (elapsed : Int) phaseCeiling) := by
  rw [isPhaseTime_iff]
  unfold phaseCeiling
  omega

theorem isPhaseTime_phaseAfter {phase : Int} (h : IsPhaseTime phase) (elapsed : Nat) :
    IsPhaseTime (phaseAfter phase elapsed) := by
  rw [isPhaseTime_iff] at *
  unfold phaseAfter phaseFloor phaseCeiling
  omega

section
variable [Trig α] {f g : Firefly α} {units rest : Units α} {elapsed : Nat}

theorem update_of_lasts (h : f.expires elapsed = false) (surface : Surface) (units : Units α) :
    f.update elapsed false surface units = ({ f.drift elapsed surface with
      phase := f.phase - min (elapsed : Int) phaseCeiling }, units) := by
  have hlasts : ¬ f.phase - min (elapsed : Int) phaseCeiling < 0 :=
    mt expires_iff.mpr (Bool.eq_false_iff.mp h)
  have hfloor : -1 ≤ f.phase := by
    unfold phaseCeiling at hlasts
    omega
  rw [update_moving, moved, h, phaseAfter_eq hfloor]
  rfl

theorem update_of_expires (h : f.expires elapsed = true) (surface : Surface) (units : Units α) :
    f.update elapsed false surface units = ({ f.drift elapsed surface with
      heading := units.next.1 * 360, shrinking := !f.shrinking, phase := phaseDuration },
      units.next.2) := by
  rw [update_moving, moved, h]
  rfl

theorem countsDown_update (f : Firefly α) (units : Units α) (elapsed : Nat) (surface : Surface) :
    f.CountsDown units elapsed (f.update elapsed false surface units).1
      (f.update elapsed false surface units).2 := by
  by_cases he : f.expires elapsed = true
  · have hshort := expires_iff.mp he
    rw [update_of_expires he]
    exact ⟨fun h => by omega, fun _ => ⟨rfl, rfl, rfl, rfl⟩⟩
  · have hlasts := mt expires_iff.mpr he
    rw [update_of_lasts (eq_false_of_ne_true he)]
    exact ⟨fun _ => ⟨rfl, rfl, rfl, rfl⟩, fun h => absurd h hlasts⟩

namespace CountsDown

omit [Trig α] in
theorem phase_nonneg (h : f.CountsDown units elapsed g rest) : 0 ≤ g.phase := by
  by_cases hs : f.phase - min (elapsed : Int) phaseCeiling < 0
  · rw [(h.turns hs).1]
    decide
  · rw [(h.lasts (not_lt.mp hs)).1]
    omega

omit [Trig α] in
theorem phase_le (h : f.CountsDown units elapsed g rest) : g.phase ≤ max f.phase 1250 := by
  by_cases hs : f.phase - min (elapsed : Int) phaseCeiling < 0
  · rw [(h.turns hs).1]
    omega
  · rw [(h.lasts (not_lt.mp hs)).1]
    unfold phaseCeiling
    omega

omit [Trig α] in
theorem isPhaseTime (h : f.CountsDown units elapsed g rest) (hf : IsPhaseTime f.phase) :
    IsPhaseTime g.phase := by
  have hle := h.phase_le
  have hnonneg := h.phase_nonneg
  rw [isPhaseTime_iff] at *
  omega

omit [Trig α] in
/-- There is a turn for the unit that is taken. -/
theorem shrinking_eq (h : f.CountsDown units elapsed g rest) :
    ∃ k, rest = units.drop k ∧ g.shrinking = Bool.not^[k] f.shrinking := by
  by_cases hs : f.phase - min (elapsed : Int) phaseCeiling < 0
  · obtain ⟨-, hshrinking, -, hrest⟩ := h.turns hs
    exact ⟨1, hrest, hshrinking⟩
  · obtain ⟨-, hshrinking, -, hrest⟩ := h.lasts (not_lt.mp hs)
    exact ⟨0, hrest, hshrinking⟩

omit [Trig α] in
theorem fitsWords (h : f.CountsDown units elapsed g rest) (hf : IsPhaseTime f.phase) :
    f.FitsWords elapsed g where
  counted := isPhaseTime_counted elapsed
  left := isPhaseTime_phaseAfter hf elapsed
  exact hfloor := phaseAfter_eq hfloor elapsed
  phase := h.isPhaseTime hf

end CountsDown
end
end Firefly

/-! ## flights -/

/-- An update that is not fading. -/
structure Leg where
  elapsed : Nat
  surface : Surface

namespace Firefly

variable {α : Type} [Scalar α] [Trig α]

/-- One leg after the other. -/
def fly (f : Firefly α) (units : Units α) : List Leg → Firefly α × Units α
  | [] => (f, units)
  | l :: ls =>
    let (f, units) := f.update l.elapsed false l.surface units
    f.fly units ls

theorem fly_append (f : Firefly α) (units : Units α) (ls ms : List Leg) :
    f.fly units (ls ++ ms) = (f.fly units ls).1.fly (f.fly units ls).2 ms := by
  induction ls generalizing f units with
  | nil => rfl
  | cons l ls ih => exact ih _ _

theorem countsDown_fly (f : Firefly α) (units : Units α) (ls : List Leg) (l : Leg) :
    (f.fly units ls).1.CountsDown (f.fly units ls).2 l.elapsed (f.fly units (ls ++ [l])).1
      (f.fly units (ls ++ [l])).2 := by
  rw [fly_append]
  exact countsDown_update ..

theorem phase_fly (f : Firefly α) (units : Units α) {ls : List Leg} (h : ls ≠ []) :
    0 ≤ (f.fly units ls).1.phase ∧ (f.fly units ls).1.phase ≤ max f.phase 1250 := by
  induction ls generalizing f units with
  | nil => exact absurd rfl h
  | cons l ls ih =>
    have hone := f.countsDown_update units l.elapsed l.surface
    by_cases hls : ls = []
    · subst hls
      exact ⟨hone.phase_nonneg, hone.phase_le⟩
    · obtain ⟨hnonneg, hle⟩ := ih (f.update l.elapsed false l.surface units).1
        (f.update l.elapsed false l.surface units).2 hls
      exact ⟨hnonneg, hle.trans (max_le hone.phase_le (le_max_right _ _))⟩

theorem isPhaseTime_fly {f : Firefly α} (h : IsPhaseTime f.phase) (units : Units α)
    (ls : List Leg) : IsPhaseTime (f.fly units ls).1.phase := by
  induction ls generalizing f units with
  | nil => exact h
  | cons l ls ih => exact ih ((f.countsDown_update units l.elapsed l.surface).isPhaseTime h) _

theorem shrinking_fly (f : Firefly α) (units : Units α) (ls : List Leg) :
    ∃ k, (f.fly units ls).2 = units.drop k ∧
      (f.fly units ls).1.shrinking = Bool.not^[k] f.shrinking := by
  induction ls generalizing f units with
  | nil => exact ⟨0, rfl, rfl⟩
  | cons l ls ih =>
    obtain ⟨k, hrest, hturned⟩ := (f.countsDown_update units l.elapsed l.surface).shrinking_eq
    obtain ⟨j, hunits, hshrinking⟩ := ih (f.update l.elapsed false l.surface units).1
      (f.update l.elapsed false l.surface units).2
    refine ⟨k + j, ?_, ?_⟩
    · rw [← Units.drop_drop, ← hrest]
      exact hunits
    · rw [Nat.add_comm, Function.iterate_add_apply, ← hturned]
      exact hshrinking

end Firefly

/-! ### within a phase -/

namespace Firefly

variable {α : Type} [Scalar α] [Trig α] {f : Firefly α} {units : Units α} {t : Nat}

/-- No leg ends the phase. -/
def StaysInPhase (f : Firefly α) (units : Units α) : List Leg → Prop
  | [] => True
  | l :: ls => f.expires l.elapsed = false ∧
    (f.update l.elapsed false l.surface units).1.StaysInPhase
      (f.update l.elapsed false l.surface units).2 ls

theorem staysInPhase_append {ls ms : List Leg} :
    f.StaysInPhase units (ls ++ ms) ↔
      f.StaysInPhase units ls ∧ (f.fly units ls).1.StaysInPhase (f.fly units ls).2 ms := by
  induction ls generalizing f units with
  | nil => exact (iff_of_eq (true_and _)).symm
  | cons l ls ih => exact (and_congr_right fun _ => ih).trans and_assoc.symm

/-- A time that does not end the phase is taken from it in full. -/
theorem update_within (h : (t : Int) ≤ f.phase) (hf : f.phase ≤ phaseCeiling) (surface : Surface)
    (units : Units α) :
    f.update t false surface units = ({ f.drift t surface with phase := f.phase - t }, units) := by
  have hcounted : min (t : Int) phaseCeiling = t := min_eq_left (h.trans hf)
  have hlasts : f.expires t = false := by
    rw [← Bool.not_eq_true, expires_iff, hcounted]
    omega
  rw [update_of_lasts hlasts, hcounted]

omit [Scalar α] [Trig α] in
theorem le_of_not_expires (h : f.expires t = false) (hf : f.phase ≤ 1250) :
    (t : Int) ≤ f.phase := by
  have hlasts : ¬ f.phase - min (t : Int) phaseCeiling < 0 :=
    mt expires_iff.mpr (Bool.eq_false_iff.mp h)
  unfold phaseCeiling at hlasts
  omega

/-- A flight within a phase takes its time from it. -/
theorem StaysInPhase.fly_eq {ls : List Leg} (h : f.StaysInPhase units ls)
    (hf : f.phase ≤ 1250) :
    (f.fly units ls).1.shrinking = f.shrinking ∧
      (f.fly units ls).1.phase = f.phase - (ls.map Leg.elapsed).sum := by
  induction ls generalizing f units with
  | nil => exact ⟨rfl, (sub_zero _).symm⟩
  | cons l ls ih =>
    have hone := update_within (le_of_not_expires h.1 hf) (hf.trans (by decide)) l.surface units
    have hdirection : (f.update l.elapsed false l.surface units).1.shrinking = f.shrinking := by
      rw [hone]
      rfl
    have hleft : (f.update l.elapsed false l.surface units).1.phase = f.phase - l.elapsed := by
      rw [hone]
    obtain ⟨hlater, hrest⟩ := ih h.2 (by omega)
    refine ⟨hlater.trans hdirection, hrest.trans ?_⟩
    rw [hleft, List.map_cons, List.sum_cons, Nat.cast_add, sub_sub]

end Firefly

/-! ## swarms -/

namespace Swarm

variable {α : Type} [Scalar α]

/-- No phase time is negative or longer than a whole phase. -/
def InPhase (s : Swarm α) : Prop := ∀ f ∈ s.fireflies, 0 ≤ f.phase ∧ f.phase ≤ 1250

/-- A unit that begins such a phase. -/
def BeginsPhase (u : α) : Prop :=
  0 ≤ trunc (u * ofNat phaseDuration) ∧ trunc (u * ofNat phaseDuration) ≤ 1250

variable {s : Swarm α} {units : Units α}

theorem inPhase_scatter (surface : Surface) (hu : ∀ n, BeginsPhase (units.unit n)) (n : Nat) :
    InPhase ⟨(scatter surface units n).1, surface⟩ := by
  intro f hf
  obtain ⟨i, -, rfl⟩ := mem_scatter hf
  exact hu i

variable [Trig α]

theorem InPhase.act (h : s.InPhase) (hu : ∀ n, BeginsPhase (units.unit n)) (a : Action) :
    (s.act units a).1.InPhase := by
  cases a with
  | reset => exact inPhase_scatter s.surface hu _
  | frame elapsed fading =>
    intro g hg
    obtain ⟨f, hf, k, rfl⟩ := mem_updateAll hg
    cases fading with
    | true => exact h f hf
    | false =>
      have hcounts := f.countsDown_update (units.drop k) elapsed s.surface
      exact ⟨hcounts.phase_nonneg, hcounts.phase_le.trans (max_le (h f hf).2 le_rfl)⟩

theorem InPhase.run (h : s.InPhase) (hu : ∀ n, BeginsPhase (units.unit n)) (as : List Action) :
    (s.run units as).1.InPhase := by
  induction as generalizing s units with
  | nil => exact h
  | cons a as ih =>
    have hunit : (s.act units a).2.unit = units.unit := by
      rw [units_act]
      rfl
    exact ih (h.act hu a) fun n => hunit ▸ hu n

theorem phase_run (surface : Surface) (hu : ∀ n, BeginsPhase (units.unit n)) (as : List Action) :
    ((random surface units).1.run (random surface units).2 as).1.InPhase := by
  have hunits : (random surface units).2 = units.drop (2 * population) :=
    units_scatter surface units population
  have hunit : (random surface units).2.unit = units.unit := by
    rw [hunits]
    rfl
  exact InPhase.run (inPhase_scatter surface hu population) (fun n => hunit ▸ hu n) as

end Swarm

/-! ## the laws -/

/-- Every unit is from 0 up to, but not including, 1, in any arithmetic: `Units.Proper` is the same
for the rationals. -/
def Units.InUnitRange {α : Type} [Scalar α] (units : Units α) : Prop :=
  ∀ n, 0 ≤ units.unit n ∧ units.unit n < 1

/-- How phases go by, for any scalars. -/
structure PhaseLaws (α : Type) [Scalar α] [Trig α] : Prop where
  /-- one update, from any phase time and with any elapsed time -/
  update : ∀ (f : Firefly α) (units : Units α) (elapsed : Nat) (surface : Surface),
    f.CountsDown units elapsed (f.update elapsed false surface units).1
      (f.update elapsed false surface units).2
  /-- every update of a flight -/
  fits : ∀ (f : Firefly α) (units : Units α) (ls : List Leg) (l : Leg), IsPhaseTime f.phase →
    (f.fly units ls).1.FitsWords l.elapsed (f.fly units (ls ++ [l])).1
  range : ∀ (f : Firefly α) (units : Units α) (ls : List Leg), ls ≠ [] →
    0 ≤ (f.fly units ls).1.phase ∧ (f.fly units ls).1.phase ≤ max f.phase 1250
  /-- as many turns as units that were taken -/
  direction : ∀ (f : Firefly α) (units : Units α) (ls : List Leg),
    ∃ k, (f.fly units ls).2 = units.drop k ∧
      (f.fly units ls).1.shrinking = Bool.not^[k] f.shrinking
  /-- any firefly of a swarm, after any resets and frames -/
  swarm : ∀ (surface : Surface) (units : Units α) (as : List Swarm.Action), units.InUnitRange →
    ∀ f ∈ ((Swarm.random surface units).1.run (Swarm.random surface units).2 as).1.fireflies,
      0 ≤ f.phase ∧ f.phase ≤ 1250

theorem phaseLaws_of_beginsPhase {α : Type} [Scalar α] [Trig α]
    (h : ∀ u : α, 0 ≤ u → u < 1 → Swarm.BeginsPhase u) : PhaseLaws α where
  update := Firefly.countsDown_update
  fits f units ls l hf := (f.countsDown_fly units ls l).fitsWords (Firefly.isPhaseTime_fly hf ..)
  range f units _ hls := f.phase_fly units hls
  direction := Firefly.shrinking_fly
  swarm surface _ as hu := Swarm.phase_run surface (fun n => h _ (hu n).1 (hu n).2) as

theorem Single.beginsPhase {u : Float32} (h0 : ofNat 0 ≤ u) (h1 : u < ofNat 1) :
    Swarm.BeginsPhase u :=
  trunc_unit_mul h0 h1 (by decide) (by decide)

theorem Exact.beginsPhase {u : Rat} (h0 : 0 ≤ u) (h1 : u < 1) : Swarm.BeginsPhase u := by
  have hnonneg : (0 : Rat) ≤ u * 1250 := by positivity
  have htrunc : Scalar.trunc (u * Scalar.ofNat phaseDuration : Rat) = ⌊u * 1250⌋ :=
    trunc_of_nonneg hnonneg
  rw [Swarm.BeginsPhase, htrunc]
  refine ⟨Int.floor_nonneg.mpr hnonneg, Int.le_of_lt (Int.floor_lt.mpr ?_)⟩
  push_cast
  linarith

/-- **A phase counts down, and a whole one follows.**  In single precision as in exact
arithmetic. -/
theorem phaseLaws [Trig Rat] : PhaseLaws Float32 ∧ PhaseLaws Rat :=
  ⟨phaseLaws_of_beginsPhase fun _ => Single.beginsPhase,
    phaseLaws_of_beginsPhase fun _ => Exact.beginsPhase⟩

end FireflyOverlay
