import FireflyOverlay.Proofs.Swarm.Phases

/-!
# Motion and the frame rate

In exact arithmetic, and whatever sine and cosine are.  Within a phase only the whole time counts,
not into how many frames it is cut.  The scale is left out: it is the one that belongs to the
beginning of the last frame.

* `Firefly.wrap_add_mul`, `wrap_wrap_add`   going round a surface once more does not change a place,
                        so it may wait until the end;
* `Firefly.wrap_eq_self_iff`   the coordinates that are on a surface;
* `Firefly.MovesAs`     two updates that agree but for the scale;
* `fly_within`          several updates within a phase move a firefly as a single one does;
* `Firefly.SteadyMotion`   the laws of motion within a phase (`steadyMotion`).
-/

namespace FireflyOverlay
namespace Firefly

/-! ## wrapping sums -/

theorem wrap_add_mul (value : Rat) (turns : Int) {bound : Nat} (h : 0 < bound) :
    wrap (value + turns * bound) bound = wrap value bound := by
  have hbound : (bound : Rat) ≠ 0 := Nat.cast_ne_zero.mpr h.ne'
  rw [wrap_eq _ h, wrap_eq _ h, add_div, mul_div_cancel_right₀ _ hbound, Int.fract_add_intCast]

theorem exists_wrap_eq (value : Rat) {bound : Nat} (h : 0 < bound) :
    ∃ turns : Int, wrap value bound = value + turns * bound := by
  have hbound : (bound : Rat) ≠ 0 := Nat.cast_ne_zero.mpr h.ne'
  refine ⟨-⌊value / bound⌋, ?_⟩
  rw [wrap_eq _ h, Int.fract, mul_sub, mul_div_cancel₀ _ hbound, Int.cast_neg, neg_mul, mul_comm,
    sub_eq_add_neg]

theorem wrap_wrap_add (value shift : Rat) {bound : Nat} (h : 0 < bound) :
    wrap (wrap value bound + shift) bound = wrap (value + shift) bound := by
  obtain ⟨turns, hturns⟩ := exists_wrap_eq value h
  rw [hturns, add_right_comm, wrap_add_mul _ _ h]

theorem wrap_eq_self_iff {value : Rat} {bound : Nat} (h : 0 < bound) :
    wrap value bound = value ↔ 0 ≤ value ∧ value < bound := by
  have hbound : (0 : Rat) < bound := Nat.cast_pos.mpr h
  constructor
  · intro hself
    rw [← hself]
    exact wrap_mem value h
  · intro hmem
    have hfract : Int.fract (value / bound) = value / bound :=
      Int.fract_eq_self.mpr ⟨div_nonneg hmem.1 hbound.le, (div_lt_one hbound).mpr hmem.2⟩
    rw [wrap_eq value h, hfract, mul_div_cancel₀ _ hbound.ne']

/-! ## one update -/

structure OnSurface (f : Firefly Rat) (surface : Surface) : Prop where
  x : 0 ≤ f.x ∧ f.x < surface.width
  y : 0 ≤ f.y ∧ f.y < surface.height

/-- The same firefly but for its scale, and the same units are left. -/
structure MovesAs (a b : Firefly Rat × Units Rat) : Prop where
  x : a.1.x = b.1.x
  y : a.1.y = b.1.y
  heading : a.1.heading = b.1.heading
  shrinking : a.1.shrinking = b.1.shrinking
  phase : a.1.phase = b.1.phase
  opacity : a.1.opacity = b.1.opacity
  units : a.2 = b.2

theorem MovesAs.refl (a : Firefly Rat × Units Rat) : MovesAs a a :=
  ⟨rfl, rfl, rfl, rfl, rfl, rfl, rfl⟩

theorem MovesAs.trans {a b c : Firefly Rat × Units Rat} (h : MovesAs a b) (h' : MovesAs b c) :
    MovesAs a c :=
  ⟨h.x.trans h'.x, h.y.trans h'.y, h.heading.trans h'.heading, h.shrinking.trans h'.shrinking,
    h.phase.trans h'.phase, h.opacity.trans h'.opacity, h.units.trans h'.units⟩

theorem MovesAs.symm {a b : Firefly Rat × Units Rat} (h : MovesAs a b) : MovesAs b a :=
  ⟨h.x.symm, h.y.symm, h.heading.symm, h.shrinking.symm, h.phase.symm, h.opacity.symm,
    h.units.symm⟩

section
variable [Trig Rat] {f : Firefly Rat} {surface : Surface} {s t : Nat}

/-- The way that a firefly goes in some time. -/
theorem drift_eq (f : Firefly Rat) (t : Nat) (surface : Surface) :
    (f.drift t surface).x = wrap (f.x + Trig.cosDegrees f.heading * (t / 20)) surface.width ∧
      (f.drift t surface).y
        = wrap (f.y + Trig.sinDegrees f.heading * (t / 20)) surface.height := by
  have hdistance : (t / 1000 * 50 : Rat) = t / 20 := by ring
  rw [← hdistance]
  exact ⟨rfl, rfl⟩

/-- Two legs of one heading. -/
theorem drift_drift (f : Firefly Rat) (s t : Nat) (surface : Surface) (phase : Int) :
    (({ f.drift s surface with phase } : Firefly Rat).drift t surface).x
        = (f.drift (s + t) surface).x ∧
      (({ f.drift s surface with phase } : Firefly Rat).drift t surface).y
        = (f.drift (s + t) surface).y := by
  obtain ⟨hx, hy⟩ := f.drift_eq s surface
  obtain ⟨hx', hy'⟩ := f.drift_eq (s + t) surface
  obtain ⟨hnext, hnext'⟩ :=
    ({ f.drift s surface with phase } : Firefly Rat).drift_eq t surface
  have hheading : ({ f.drift s surface with phase } : Firefly Rat).heading = f.heading := rfl
  have hsum : ((s + t : Nat) : Rat) / 20 = s / 20 + t / 20 := by
    rw [Nat.cast_add, add_div]
  constructor
  · rw [hnext, hheading, hx, hx', wrap_wrap_add _ _ surface.width_pos, hsum, mul_add, add_assoc]
  · rw [hnext', hheading, hy, hy', wrap_wrap_add _ _ surface.height_pos, hsum, mul_add, add_assoc]

theorem update_update (hf : IsPhaseTime f.phase) (h : ((s + t : Nat) : Int) ≤ f.phase)
    (surface : Surface) (units : Units Rat) :
    MovesAs ((f.update s false surface units).1.update t false surface
      (f.update s false surface units).2) (f.update (s + t) false surface units) := by
  have hfirst : (s : Int) ≤ f.phase := by omega
  have hsecond : (t : Int) ≤ f.phase - s := by omega
  have hleft : IsPhaseTime (f.phase - s) := by
    rw [isPhaseTime_iff] at *
    omega
  obtain ⟨hx, hy⟩ := f.drift_drift s t surface (f.phase - s)
  rw [update_within hfirst hf.2, update_within hsecond hleft.2, update_within h hf.2]
  refine ⟨hx, hy, rfl, rfl, ?_, rfl, rfl⟩
  show f.phase - s - t = f.phase - (s + t : Nat)
  omega

/-! ## several updates -/

/-- The time may be cut anywhere. -/
theorem fly_within (hf : IsPhaseTime f.phase) (units : Units Rat) (surface : Surface)
    {times : List Nat} (hne : times ≠ []) (h : (times.sum : Int) ≤ f.phase) :
    MovesAs (f.fly units (times.map (⟨·, surface⟩))) (f.update times.sum false surface units) := by
  induction times generalizing f units with
  | nil => exact absurd rfl hne
  | cons t ts ih =>
    rw [List.sum_cons] at h ⊢
    by_cases hts : ts = []
    · subst hts
      exact .refl _
    · have hone := f.countsDown_update units t surface
      have hphase : (f.update t false surface units).1.phase = f.phase - t := by
        rw [update_within (by omega) hf.2]
      have hrest := ih (hone.isPhaseTime hf) (f.update t false surface units).2 hts (by omega)
      exact hrest.trans (update_update hf h surface units)

theorem update_zero (hf : IsPhaseTime f.phase) (h : 0 ≤ f.phase) (surface : Surface)
    (units : Units Rat) :
    MovesAs (f.update 0 false surface units) (f, units) ↔ f.OnSurface surface := by
  obtain ⟨hx, hy⟩ := f.drift_eq 0 surface
  have hzero : ((0 : Nat) : Rat) / 20 = 0 := by norm_num
  rw [hzero, mul_zero, add_zero] at hx hy
  rw [update_within h hf.2]
  constructor
  · intro hmoves
    exact ⟨(wrap_eq_self_iff surface.width_pos).mp (hx.symm.trans hmoves.x),
      (wrap_eq_self_iff surface.height_pos).mp (hy.symm.trans hmoves.y)⟩
  · intro hon
    exact ⟨hx.trans ((wrap_eq_self_iff surface.width_pos).mpr hon.x),
      hy.trans ((wrap_eq_self_iff surface.height_pos).mpr hon.y), rfl, rfl, sub_zero _, rfl, rfl⟩

/-! ## the laws -/

/-- How a firefly moves within a phase. -/
structure SteadyMotion (f : Firefly Rat) (units : Units Rat) (surface : Surface) : Prop where
  /-- the first frame brings a firefly onto the surface, if it is not there already -/
  anyCut : ∀ times : List Nat, (times.sum : Int) ≤ f.phase → times ≠ [] ∨ f.OnSurface surface →
    MovesAs (f.fly units (times.map (⟨·, surface⟩))) (f.update times.sum false surface units)
  still : 0 ≤ f.phase →
    (MovesAs (f.update 0 false surface units) (f, units) ↔ f.OnSurface surface)

/-- **Motion does not depend on the frame rate.** -/
theorem steadyMotion (hf : IsPhaseTime f.phase) (units : Units Rat) (surface : Surface) :
    f.SteadyMotion units surface := by
  refine ⟨fun times hsum hstart => ?_, fun hphase => update_zero hf hphase surface units⟩
  by_cases hne : times = []
  · subst hne
    have hon : f.OnSurface surface := hstart.resolve_left (absurd rfl)
    exact ((update_zero hf hsum surface units).mpr hon).symm
  · exact fly_within hf units surface hne hsum

end

/-- It goes right, over the edge of its surface many times. -/
def roamer : Firefly Rat := ofMotion (5 / 2) 1 0 false 1250

theorem steadyMotion_roamer :
    IsPhaseTime roamer.phase ∧
      (@fly Rat _ Swarm.quarterTurns roamer Swarm.quarterUnits
        ([400, 7, 300].map (⟨·, Swarm.smallSurface⟩))).1.x = 37 / 20 ∧
      @SteadyMotion Swarm.quarterTurns roamer Swarm.quarterUnits Swarm.smallSurface :=
  ⟨⟨by decide, by decide⟩, by decide +kernel,
    @steadyMotion Swarm.quarterTurns roamer ⟨by decide, by decide⟩ _ _⟩

/-- It is to the right of its surface. -/
def stray : Firefly Rat := ofMotion 5 0 0 false 1250

/-- A frame of no time brings it back, but no frame does not. -/
theorem stray_moves_without_frames :
    (([] : List Nat).sum : Int) ≤ stray.phase ∧
      (@fly Rat _ Swarm.quarterTurns stray Swarm.quarterUnits
        (([] : List Nat).map (⟨·, Swarm.smallSurface⟩))).1.x = 5 ∧
      (@update Rat _ Swarm.quarterTurns stray ([] : List Nat).sum false Swarm.smallSurface
        Swarm.quarterUnits).1.x = 2 ∧
      ¬ MovesAs (@fly Rat _ Swarm.quarterTurns stray Swarm.quarterUnits
          (([] : List Nat).map (⟨·, Swarm.smallSurface⟩)))
        (@update Rat _ Swarm.quarterTurns stray ([] : List Nat).sum false Swarm.smallSurface
          Swarm.quarterUnits) := by
  have hstays : (@fly Rat _ Swarm.quarterTurns stray Swarm.quarterUnits
      (([] : List Nat).map (⟨·, Swarm.smallSurface⟩))).1.x = 5 := rfl
  have hbrought : (@update Rat _ Swarm.quarterTurns stray ([] : List Nat).sum false
      Swarm.smallSurface Swarm.quarterUnits).1.x = 2 := by
    decide +kernel
  refine ⟨by decide, hstays, hbrought, fun hmoves => ?_⟩
  have hx := hmoves.x
  rw [hstays, hbrought] at hx
  exact absurd hx (by norm_num)

end Firefly
end FireflyOverlay
