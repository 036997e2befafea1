import FireflyOverlay.Proofs.Swarm.Phases

/-!
# The pulse

In exact arithmetic.  Each leg of a flight shows the scale that belongs to the phase as the leg
found it.  A phase of one direction ends at the scale where one of the other direction begins, so
the scale goes on without a jump.

* `phaseScale_eq`      the scale at a point of the phase;
* `scale_fly`          the scale that the last leg of a flight shows;
* `abs_phaseScale_fly_le`   in a millisecond, the scale changes by a 2500th at most;
* `Firefly.SmoothPulse`   the scales of a flight, from leg to leg (`smoothPulse`);
* `Firefly.Ramps`      within a phase the scale grows where it is said to shrink, and shrinks where
                       it is said to grow (`ramps`).
-/

namespace FireflyOverlay
namespace Firefly

/-! ## the scale at a point of the phase -/

theorem phaseScale_eq (shrinking : Bool) (phase : Int) :
    (phaseScale shrinking phase : Rat)
      = if shrinking then 1 - (phase : Rat) / 2500 else 1 / 2 + (phase : Rat) / 2500 := by
  show (if shrinking then 1 - (Scalar.ofInt phase : Rat) / 1250 * (1 / 2)
    else 1 / 2 + (Scalar.ofInt phase : Rat) / 1250 * (1 / 2)) = _
  rw [Exact.ofInt_eq]
  split <;> ring

theorem phaseScale_mem (shrinking : Bool) {phase : Int} (h : 0 ≤ phase ∧ phase ≤ 1250) :
    1 / 2 ≤ (phaseScale shrinking phase : Rat) ∧ (phaseScale shrinking phase : Rat) ≤ 1 := by
  have hnonneg : (0 : Rat) ≤ phase := by exact_mod_cast h.1
  have hle : (phase : Rat) ≤ 1250 := by exact_mod_cast h.2
  rw [phaseScale_eq]
  split <;> constructor <;> linarith

theorem counted_mem (elapsed : Nat) :
    0 ≤ min (elapsed : Int) phaseCeiling ∧ min (elapsed : Int) phaseCeiling ≤ elapsed := by
  unfold phaseCeiling
  omega

variable {f g : Firefly Rat} {units rest : Units Rat} {elapsed : Nat}

/-- A whole phase of the one direction begins where one of the other direction ends. -/
theorem CountsDown.abs_phaseScale_le (h : f.CountsDown units elapsed g rest) (hf : 0 ≤ f.phase) :
    |(phaseScale g.shrinking g.phase : Rat) - phaseScale f.shrinking f.phase| ≤ elapsed / 2500 := by
  obtain ⟨hcounted, hle⟩ := counted_mem elapsed
  rw [phaseScale_eq, phaseScale_eq]
  by_cases hs : f.phase - min (elapsed : Int) phaseCeiling < 0
  · obtain ⟨hphase, hshrinking, -, -⟩ := h.turns hs
    have hnonneg : (0 : Rat) ≤ f.phase := by exact_mod_cast hf
    have hshort : (f.phase : Rat) ≤ elapsed := by
      have hint : f.phase ≤ elapsed := by omega
      exact_mod_cast hint
    rw [hphase, hshrinking, abs_le]
    cases f.shrinking <;> simp only [Bool.not_true, Bool.not_false, if_true, Bool.false_eq_true,
      if_false] <;> push_cast <;> constructor <;> linarith
  · obtain ⟨hphase, hshrinking, -, -⟩ := h.lasts (not_lt.mp hs)
    have hnonneg : (0 : Rat) ≤ (min (elapsed : Int) phaseCeiling : Int) := by
      exact_mod_cast hcounted
    have hshort : ((min (elapsed : Int) phaseCeiling : Int) : Rat) ≤ elapsed := by
      exact_mod_cast hle
    rw [hphase, hshrinking, abs_le, Int.cast_sub]
    generalize ((min (elapsed : Int) phaseCeiling : Int) : Rat) = counted at *
    split <;> constructor <;> linarith

/-! ## along a flight -/

section
variable [Trig Rat]

theorem phase_fly_mem (h : 0 ≤ f.phase ∧ f.phase ≤ 1250) (units : Units Rat) (ls : List Leg) :
    0 ≤ (f.fly units ls).1.phase ∧ (f.fly units ls).1.phase ≤ 1250 := by
  by_cases hls : ls = []
  · subst hls
    exact h
  · obtain ⟨hnonneg, hle⟩ := f.phase_fly units hls
    exact ⟨hnonneg, hle.trans (max_le h.2 le_rfl)⟩

/-- A leg shows the scale of the phase that it finds. -/
theorem scale_fly (f : Firefly Rat) (units : Units Rat) (ls : List Leg) (l : Leg) :
    (f.fly units (ls ++ [l])).1.scale =
      phaseScale (f.fly units ls).1.shrinking (f.fly units ls).1.phase := by
  rw [fly_append]
  generalize f.fly units ls = s
  show (s.1.update l.elapsed false l.surface s.2).1.scale = _
  rw [update_moving]
  unfold moved
  split <;> rfl

theorem abs_phaseScale_fly_le (h : 0 ≤ f.phase ∧ f.phase ≤ 1250) (units : Units Rat)
    (ls : List Leg) :
    |(phaseScale (f.fly units ls).1.shrinking (f.fly units ls).1.phase : Rat)
      - phaseScale f.shrinking f.phase| ≤ ((ls.map Leg.elapsed).sum : Nat) / 2500 := by
  induction ls generalizing f units with
  | nil =>
    show |phaseScale f.shrinking f.phase - phaseScale f.shrinking f.phase| ≤ ((0 : Nat) : Rat) / 2500
    simp
  | cons l ls ih =>
    have hone := f.countsDown_update units l.elapsed l.surface
    have hnext := ih ⟨hone.phase_nonneg, hone.phase_le.trans (max_le h.2 le_rfl)⟩
      (f.update l.elapsed false l.surface units).2
    have hfirst := hone.abs_phaseScale_le h.1
    rw [List.map_cons, List.sum_cons, Nat.cast_add, add_div, add_comm]
    exact (abs_sub_le _ _ _).trans (add_le_add hnext hfirst)

/-- The scales that the legs of a flight show. -/
structure SmoothPulse (f : Firefly Rat) (units : Units Rat) (ls : List Leg) : Prop where
  /-- the scale is in its range as soon as a leg has set it, and before if it is in step with the
  phase -/
  range : ls ≠ [] ∨ f.scale = phaseScale f.shrinking f.phase →
    1 / 2 ≤ (f.fly units ls).1.scale ∧ (f.fly units ls).1.scale ≤ 1
  /-- the scale lags behind by one leg -/
  next : ∀ first second,
    |(f.fly units (ls ++ [first, second])).1.scale - (f.fly units (ls ++ [first])).1.scale|
      ≤ first.elapsed / 2500
  later : ∀ first ms last,
    |(f.fly units (ls ++ first :: ms ++ [last])).1.scale - (f.fly units (ls ++ [first])).1.scale|
      ≤ (first.elapsed + (ms.map Leg.elapsed).sum : Nat) / 2500

/-- **The pulse stays in its range and never jumps.** -/
theorem smoothPulse (h : 0 ≤ f.phase ∧ f.phase ≤ 1250) (units : Units Rat) (ls : List Leg) :
    f.SmoothPulse units ls := by
  have hlater : ∀ first ms last,
      |(f.fly units (ls ++ first :: ms ++ [last])).1.scale - (f.fly units (ls ++ [first])).1.scale|
        ≤ (first.elapsed + (ms.map Leg.elapsed).sum : Nat) / 2500 := by
    intro first ms last
    rw [scale_fly, scale_fly, fly_append]
    exact abs_phaseScale_fly_le (phase_fly_mem h units ls) _ (first :: ms)
  refine ⟨fun hset => ?_, fun first second => ?_, hlater⟩
  · rcases List.eq_nil_or_concat ls with rfl | ⟨ms, l, rfl⟩
    · show 1 / 2 ≤ f.scale ∧ f.scale ≤ 1
      rw [hset.resolve_left (absurd rfl)]
      exact phaseScale_mem _ h
    · rw [List.concat_eq_append, scale_fly]
      exact phaseScale_mem _ (phase_fly_mem h units ms)
  · have hnext := hlater first [] second
    rwa [List.append_assoc] at hnext

end

/-- The first leg goes beyond the end of its phase. -/
def turning : Firefly Rat := ofMotion 0 0 0 true 100

theorem smoothPulse_turning :
    (0 ≤ turning.phase ∧ turning.phase ≤ 1250) ∧
      (@fly Rat _ Swarm.quarterTurns turning Swarm.quarterUnits
        [⟨200, Swarm.smallSurface⟩]).1.shrinking = false ∧
      @SmoothPulse Swarm.quarterTurns turning Swarm.quarterUnits [⟨200, Swarm.smallSurface⟩] :=
  ⟨by decide, by decide +kernel, @smoothPulse turning Swarm.quarterTurns (by decide) _ _⟩

/-! ## within a phase -/

/-- What a direction says of two scales, one after the other. -/
def ScaledAsSaid (shrinking : Bool) (earlier later : Rat) : Prop :=
  if shrinking then later ≤ earlier else earlier ≤ later

section
variable [Trig Rat]

/-- The scales of a flight that does not end its phase. -/
structure Ramps (f : Firefly Rat) (units : Units Rat) (ls : List Leg) : Prop where
  direction : ∀ before after, ls = before ++ after →
    (f.fly units before).1.shrinking = f.shrinking
  /-- a phase that shrinks leads up to 1, and one that grows leads down to half of it -/
  scale : ∀ before l after, ls = before ++ l :: after →
    (f.fly units (before ++ [l])).1.scale =
      if f.shrinking then 1 - (f.phase - (before.map Leg.elapsed).sum : Rat) / 2500
      else 1 / 2 + (f.phase - (before.map Leg.elapsed).sum : Rat) / 2500
  /-- it never goes the way that is said -/
  reversed : ∀ before first second after, ls = before ++ first :: second :: after →
    ScaledAsSaid (!f.shrinking) (f.fly units (before ++ [first])).1.scale
      (f.fly units (before ++ [first, second])).1.scale
  /-- unless it does not change -/
  asSaid : ∀ before first second after, ls = before ++ first :: second :: after →
    (ScaledAsSaid f.shrinking (f.fly units (before ++ [first])).1.scale
      (f.fly units (before ++ [first, second])).1.scale ↔ first.elapsed = 0)

theorem StaysInPhase.scale_eq {before after : List Leg} {l : Leg}
    (h : f.StaysInPhase units (before ++ l :: after)) (hf : f.phase ≤ 1250) :
    (f.fly units (before ++ [l])).1.scale =
      if f.shrinking then 1 - (f.phase - (before.map Leg.elapsed).sum : Rat) / 2500
      else 1 / 2 + (f.phase - (before.map Leg.elapsed).sum : Rat) / 2500 := by
  obtain ⟨hshrinking, hphase⟩ := (staysInPhase_append.mp h).1.fly_eq hf
  rw [scale_fly, phaseScale_eq, hshrinking, hphase, Int.cast_sub, Int.cast_natCast]

/-- The slope between two legs. -/
theorem StaysInPhase.scale_next {before after : List Leg} {first second : Leg}
    (h : f.StaysInPhase units (before ++ first :: second :: after)) (hf : f.phase ≤ 1250) :
    (f.fly units (before ++ [first, second])).1.scale =
      (f.fly units (before ++ [first])).1.scale +
        if f.shrinking then (first.elapsed / 2500 : Rat) else -(first.elapsed / 2500 : Rat) := by
  have hlater : f.StaysInPhase units ((before ++ [first]) ++ second :: after) := by
    rwa [List.append_assoc]
  have hends : before ++ [first, second] = (before ++ [first]) ++ [second] := by simp
  have hsum : ((before ++ [first]).map Leg.elapsed).sum
      = (before.map Leg.elapsed).sum + first.elapsed := by simp
  rw [hends, hlater.scale_eq hf, h.scale_eq hf, hsum, Nat.cast_add]
  split <;> ring

/-- **The scale goes against its direction.** -/
theorem ramps (hf : f.phase ≤ 1250) {ls : List Leg} (h : f.StaysInPhase units ls) :
    f.Ramps units ls := by
  refine ⟨?_, ?_, ?_, ?_⟩
  · rintro before after rfl
    exact ((staysInPhase_append.mp h).1.fly_eq hf).1
  · rintro before l after rfl
    exact h.scale_eq hf
  · rintro before first second after rfl
    have hslope : (0 : Rat) ≤ first.elapsed / 2500 := by positivity
    rw [h.scale_next hf]
    cases f.shrinking
    · exact add_le_of_nonpos_right (neg_nonpos.mpr hslope)
    · exact le_add_of_nonneg_right hslope
  · rintro before first second after rfl
    have hslope : (first.elapsed / 2500 : Rat) ≤ 0 ↔ first.elapsed = 0 := by
      rw [div_le_iff₀ (by norm_num), zero_mul, Nat.cast_nonpos]
    rw [h.scale_next hf, ← hslope]
    cases f.shrinking
    · exact (le_add_iff_nonneg_right _).trans neg_nonneg
    · exact add_le_iff_nonpos_right _

end

/-- It is about to shrink for a whole phase. -/
def beginning : Firefly Rat := ofMotion 0 0 0 true 1250

def twoLegs : List Leg := [⟨100, Swarm.smallSurface⟩, ⟨100, Swarm.smallSurface⟩]

theorem ramps_beginning :
    beginning.phase ≤ 1250 ∧
      @StaysInPhase Rat _ Swarm.quarterTurns beginning Swarm.quarterUnits twoLegs ∧
      @Ramps Swarm.quarterTurns beginning Swarm.quarterUnits twoLegs := by
  have hstays : @StaysInPhase Rat _ Swarm.quarterTurns beginning Swarm.quarterUnits twoLegs :=
    ⟨by decide +kernel, by decide +kernel, trivial⟩
  exact ⟨by decide, hstays, @ramps beginning Swarm.quarterUnits Swarm.quarterTurns (by decide) _
    hstays⟩

/-- It is half as large as it can be when it should begin to shrink, and larger a leg later. -/
theorem swells_while_shrinking :
    (0 ≤ beginning.phase ∧ beginning.phase ≤ 1250) ∧
      @StaysInPhase Rat _ Swarm.quarterTurns beginning Swarm.quarterUnits twoLegs ∧
      beginning.shrinking = true ∧
      (@fly Rat _ Swarm.quarterTurns beginning Swarm.quarterUnits (twoLegs.take 1)).1.scale
        = 1 / 2 ∧
      (@fly Rat _ Swarm.quarterTurns beginning Swarm.quarterUnits twoLegs).1.scale = 27 / 50 ∧
      ¬ ScaledAsSaid beginning.shrinking
        (@fly Rat _ Swarm.quarterTurns beginning Swarm.quarterUnits (twoLegs.take 1)).1.scale
        (@fly Rat _ Swarm.quarterTurns beginning Swarm.quarterUnits twoLegs).1.scale := by
  have hfirst : (@fly Rat _ Swarm.quarterTurns beginning Swarm.quarterUnits
      (twoLegs.take 1)).1.scale = 1 / 2 := by
    decide +kernel
  have hsecond : (@fly Rat _ Swarm.quarterTurns beginning Swarm.quarterUnits twoLegs).1.scale
      = 27 / 50 := by
    decide +kernel
  refine ⟨by decide, ⟨by decide +kernel, by decide +kernel, trivial⟩, rfl, hfirst, hsecond, ?_⟩
  rw [hfirst, hsecond]
  show ¬ (27 / 50 : Rat) ≤ 1 / 2
  norm_num

end Firefly
end FireflyOverlay
