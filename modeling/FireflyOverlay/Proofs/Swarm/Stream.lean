import FireflyOverlay.Proofs.Swarm.Fading

/-!
# Who gets which unit

All swarms and all their fireflies read one stream of units.  Where each of them reads follows from
how many phases ran out before.

* `Firefly.PlacedBy`    which of two units gives which field of a firefly that is placed anew;
* `Firefly.expires`     the phase runs out in a frame; `Firefly.moved` the update, by the unit that
                        it takes in this case;
* `Swarm.PlacedFrom`, `Swarm.MovedFrom`   the same for a swarm: from where in the stream each of its
                        fireflies takes its units;
* `Flock`               swarms that share a stream; `Flock.takes` counts the units that calls take;
* `Flock.Aligned`       the units of all calls, in any sequence (`aligned`).
-/

namespace FireflyOverlay
open Scalar

variable {α : Type} [Scalar α]

/-! ## one firefly -/

namespace Firefly

/-- All fields come from the first unit, but for the row, which comes from the second alone. -/
structure PlacedBy (f : Firefly α) (surface : Surface) (u v : α) : Prop where
  x : f.x = u * ofNat surface.width
  heading : f.heading = u * 360
  shrinking : f.shrinking = decide (1 / 2 < u)
  phase : f.phase = trunc (u * ofNat phaseDuration)
  scale : f.scale = phaseScale (decide (1 / 2 < u)) (trunc (u * ofNat phaseDuration))
  opacity : f.opacity = 1
  y : f.y = v * ofNat surface.height

theorem placedBy_ofUnits (surface : Surface) (u v : α) :
    (ofUnits surface u v).PlacedBy surface u v := ⟨rfl, rfl, rfl, rfl, rfl, rfl, rfl⟩

/-- The phase runs out when so much time elapses. -/
def expires (f : Firefly α) (elapsed : Nat) : Bool :=
  decide (f.phase < min (elapsed : Int) phaseCeiling)

theorem phaseAfter_neg {phase : Int} {elapsed : Nat} :
    phaseAfter phase elapsed < 0 ↔ phase < min (elapsed : Int) phaseCeiling := by
  have hfloor : phaseFloor < 0 := by decide
  rw [phaseAfter, max_lt_iff, sub_neg]
  exact and_iff_right hfloor

variable [Trig α]

/-- After a frame that is not fading.  Where the phase runs out, `u` gives the new heading. -/
def moved (f : Firefly α) (elapsed : Nat) (surface : Surface) (u : α) : Firefly α :=
  if f.expires elapsed then
    { f.drift elapsed surface with
      heading := u * 360, shrinking := !f.shrinking, phase := phaseDuration }
  else { f.drift elapsed surface with phase := phaseAfter f.phase elapsed }

theorem update_moving (f : Firefly α) (elapsed : Nat) (surface : Surface) (units : Units α) :
    f.update elapsed false surface units = (f.moved elapsed surface (units.unit units.used),
      units.drop (if f.expires elapsed then 1 else 0)) := by
  show (f.drift elapsed surface).tick elapsed units = _
  unfold tick moved expires
  have hphase : (f.drift elapsed surface).phase = f.phase := rfl
  by_cases h : f.phase < min (elapsed : Int) phaseCeiling
  · simp only [hphase, phaseAfter_neg.mpr h, if_true, decide_eq_true h]
    rfl
  · simp only [hphase, mt phaseAfter_neg.mp h, if_false, decide_eq_false h]
    rfl

end Firefly

/-! ## one swarm -/

namespace Swarm

theorem getElem?_scatter (surface : Surface) (units : Units α) {i n : Nat} (h : i < n) :
    (scatter surface units n).1[i]? = some (.ofUnits surface
      (units.unit (units.used + 2 * i)) (units.unit (units.used + (2 * i + 1)))) := by
  induction n generalizing units i with
  | zero => cases h
  | succ n ih =>
    cases i with
    | zero => rfl
    | succ i =>
      have hrest := ih (units.drop 2) (Nat.lt_of_succ_lt_succ h)
      have hused : (units.drop 2).used + 2 * i = units.used + 2 * (i + 1) := by
        show units.used + 2 + 2 * i = _
        omega
      rw [← Nat.add_assoc, hused] at hrest
      exact hrest

variable [Trig α]

/-- How many phases run out in a frame. -/
def expiries (elapsed : Nat) (fs : List (Firefly α)) : Nat := fs.countP (·.expires elapsed)

/-- The units are read in the order of the population. -/
theorem updateAll_moving (elapsed : Nat) (surface : Surface) (fs : List (Firefly α))
    (units : Units α) :
    (updateAll elapsed false surface fs units).2 = units.drop (expiries elapsed fs) ∧
      ∀ (i : Nat) (f : Firefly α), fs[i]? = some f →
        (updateAll elapsed false surface fs units).1[i]? = some (f.moved elapsed surface
          (units.unit (units.used + expiries elapsed (fs.take i)))) := by
  induction fs generalizing units with
  | nil => exact ⟨rfl, nofun⟩
  | cons f fs ih =>
    have hf := f.update_moving elapsed surface units
    have hcons : updateAll elapsed false surface (f :: fs) units =
        ((f.update elapsed false surface units).1 ::
          (updateAll elapsed false surface fs (f.update elapsed false surface units).2).1,
        (updateAll elapsed false surface fs (f.update elapsed false surface units).2).2) := rfl
    have hcount : ∀ gs, expiries elapsed (f :: gs) =
        (if f.expires elapsed then 1 else 0) + expiries elapsed gs := by
      intro gs
      rw [expiries, List.countP_cons, Nat.add_comm]
      rfl
    rw [hcons, hf]
    obtain ⟨hunits, hfirefly⟩ := ih (units.drop (if f.expires elapsed then 1 else 0))
    refine ⟨?_, fun i g hg => ?_⟩
    · rw [hcount, ← Units.drop_drop]
      exact hunits
    · cases i with
      | zero =>
        obtain rfl := Option.some.inj hg
        rfl
      | succ i =>
        rw [List.take_succ_cons, hcount, ← Nat.add_assoc]
        exact hfirefly i g hg

omit [Trig α] in
/-- Firefly `i` is placed by the units `2 * i` and `2 * i + 1` of those that are left. -/
structure PlacedFrom (s : Swarm α) (surface : Surface) (units : Units α) (n : Nat) : Prop where
  surface_eq : s.surface = surface
  length : s.fireflies.length = n
  firefly : ∀ i < n, ∃ f, s.fireflies[i]? = some f ∧ f.PlacedBy surface
    (units.unit (units.used + 2 * i)) (units.unit (units.used + (2 * i + 1)))

/-- Of the fireflies whose phase runs out, the one with `j` others before it takes unit `j`. -/
structure MovedFrom (s t : Swarm α) (elapsed : Nat) (units : Units α) : Prop where
  surface_eq : t.surface = s.surface
  length : t.fireflies.length = s.fireflies.length
  firefly : ∀ (i : Nat) (f : Firefly α), s.fireflies[i]? = some f →
    t.fireflies[i]? = some (f.moved elapsed s.surface
      (units.unit (units.used + expiries elapsed (s.fireflies.take i))))

omit [Trig α] in
theorem placedFrom_scatter (surface : Surface) (units : Units α) (n : Nat) :
    (⟨(scatter surface units n).1, surface⟩ : Swarm α).PlacedFrom surface units n where
  surface_eq := rfl
  length := length_scatter surface units n
  firefly _ hi := ⟨_, getElem?_scatter surface units hi, Firefly.placedBy_ofUnits _ _ _⟩

theorem movedFrom_advance (s : Swarm α) (elapsed : Nat) (units : Units α) :
    s.MovedFrom (s.advance elapsed false units).1 elapsed units where
  surface_eq := rfl
  length := s.length_advance elapsed false units
  firefly := (updateAll_moving elapsed s.surface s.fireflies units).2

/-! ### actions -/

/-- How many units an action takes. -/
def Action.takes (s : Swarm α) : Action → Nat
  | .reset => 2 * s.fireflies.length
  | .frame elapsed false => expiries elapsed s.fireflies
  | .frame _ true => 0

theorem units_act (s : Swarm α) (units : Units α) (a : Action) :
    (s.act units a).2 = units.drop (a.takes s) := by
  cases a with
  | reset => exact units_scatter s.surface units _
  | frame elapsed fading =>
    cases fading with
    | false => exact (updateAll_moving elapsed s.surface s.fireflies units).1
    | true =>
      show (updateAll elapsed true s.surface s.fireflies units).2 = units.drop 0
      rw [updateAll_fading]
      rfl

/-- What an action makes of a swarm, by the units that it takes. -/
def ActedFrom (s t : Swarm α) (units : Units α) : Action → Prop
  | .reset => t.PlacedFrom s.surface units s.fireflies.length
  | .frame elapsed false => s.MovedFrom t elapsed units
  | .frame elapsed true => t = s.faded [elapsed]

theorem actedFrom_act (s : Swarm α) (units : Units α) (a : Action) :
    s.ActedFrom (s.act units a).1 units a := by
  cases a with
  | reset => exact placedFrom_scatter s.surface units _
  | frame elapsed fading =>
    cases fading with
    | false => exact s.movedFrom_advance elapsed units
    | true =>
      show ({ s with fireflies := (updateAll elapsed true s.surface s.fireflies units).1 } :
        Swarm α) = _
      rw [updateAll_fading]
      rfl

end Swarm

/-! ## several swarms on one stream -/

structure Flock (α : Type) where
  swarms : List (Swarm α)
  units : Units α

/-- A swarm is made, or one of those that were made acts. -/
inductive FlockCall where
  | create (surface : Surface)
  | act (k : Nat) (a : Swarm.Action)

namespace Flock

variable [Trig α]

def step (w : Flock α) : FlockCall → Flock α
  | .create surface =>
    let (s, units) := Swarm.random surface w.units
    ⟨w.swarms ++ [s], units⟩
  | .act k a =>
    match w.swarms[k]? with
    | some s =>
      let (s, units) := s.act w.units a
      ⟨w.swarms.set k s, units⟩
    | none => w

def run (w : Flock α) (cs : List FlockCall) : Flock α := cs.foldl step w

/-- How many units a call takes. -/
def callTakes (w : Flock α) : FlockCall → Nat
  | .create _ => 2 * population
  | .act k a => (w.swarms[k]?).elim 0 a.takes

def takes (w : Flock α) : List FlockCall → Nat
  | [] => 0
  | c :: cs => w.callTakes c + (w.step c).takes cs

theorem run_concat (w : Flock α) (cs : List FlockCall) (c : FlockCall) :
    w.run (cs ++ [c]) = (w.run cs).step c := by
  rw [run, List.foldl_append, List.foldl_cons, List.foldl_nil, run]

theorem step_act {w : Flock α} {k : Nat} {s : Swarm α} (h : w.swarms[k]? = some s)
    (a : Swarm.Action) :
    w.step (.act k a) = ⟨w.swarms.set k (s.act w.units a).1, (s.act w.units a).2⟩ := by
  simp only [step, h]

theorem step_act_none {w : Flock α} {k : Nat} (h : w.swarms[k]? = none) (a : Swarm.Action) :
    w.step (.act k a) = w := by
  simp only [step, h]

theorem units_step (w : Flock α) (c : FlockCall) :
    (w.step c).units = w.units.drop (w.callTakes c) := by
  cases c with
  | create surface => exact Swarm.units_scatter surface w.units population
  | act k a =>
    show _ = w.units.drop ((w.swarms[k]?).elim 0 a.takes)
    cases h : w.swarms[k]? with
    | none =>
      rw [step_act_none h]
      rfl
    | some s =>
      rw [step_act h]
      exact s.units_act w.units a

theorem units_run (w : Flock α) (cs : List FlockCall) :
    (w.run cs).units = w.units.drop (w.takes cs) := by
  induction cs generalizing w with
  | nil => rfl
  | cons c cs ih =>
    show ((w.step c).run cs).units = _
    rw [ih, units_step, Units.drop_drop]
    rfl

/-- After some calls: the position of the stream, and which units the next call takes. -/
structure Aligned (w : Flock α) (cs : List FlockCall) : Prop where
  position : (w.run cs).units = w.units.drop (w.takes cs)
  create : ∀ surface, ∃ s, (w.run (cs ++ [.create surface])).swarms = (w.run cs).swarms ++ [s] ∧
    s.PlacedFrom surface (w.units.drop (w.takes cs)) population
  /-- the other swarms stay as they are -/
  act : ∀ k a s, (w.run cs).swarms[k]? = some s →
    ∃ t, (w.run (cs ++ [.act k a])).swarms = (w.run cs).swarms.set k t ∧
      s.ActedFrom t (w.units.drop (w.takes cs)) a

theorem aligned (w : Flock α) (cs : List FlockCall) : w.Aligned cs where
  position := w.units_run cs
  create surface := by
    rw [run_concat, ← units_run]
    exact ⟨_, rfl, Swarm.placedFrom_scatter surface _ population⟩
  act k a s hs := by
    rw [run_concat, step_act hs, ← units_run]
    exact ⟨_, rfl, s.actedFrom_act _ a⟩

end Flock
end FireflyOverlay
