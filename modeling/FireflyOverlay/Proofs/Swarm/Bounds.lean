import FireflyOverlay.Proofs.Swarm.Reachable

/-!
# Fireflies stay on their surface

In exact arithmetic, and whatever sine and cosine are, no run takes a firefly off its surface.

* `Firefly.wrap_eq`    wrapping is the remainder of a division that is rounded down;
* `Firefly.InBounds`   place, opacity and heading in their ranges; `ofUnits_inBounds` and
                       `InBounds.update` are the two ways to get a firefly;
* `Swarm.Action`, `Swarm.run`   resets and frames in any order, which read one stream of units;
* `Swarm.fadedSinceReset`   some frame after the last reset was fading;
* `inBounds_run`       the bounds of every firefly after every run.
-/

namespace FireflyOverlay

/-! ## wrapping -/

namespace Firefly

/-- The remainder of a division that is rounded down. -/
theorem wrap_eq (value : Rat) {bound : Nat} (h : 0 < bound) :
    wrap value bound = bound * Int.fract (value / bound) := by
  have hbound : (0 : Rat) < bound := Nat.cast_pos.mpr h
  have hlow : 0 ≤ bound * Int.fract (value / bound) :=
    mul_nonneg hbound.le (Int.fract_nonneg _)
  have hhigh : bound * Int.fract (value / bound) < bound :=
    mul_lt_of_lt_one_right hbound (Int.fract_lt_one _)
  have hvalue : value - bound * ⌊value / bound⌋ = bound * Int.fract (value / bound) := by
    rw [← Int.self_sub_floor, mul_sub, mul_div_cancel₀ value hbound.ne']
  have hrest : Scalar.rem value (bound : Rat) = value - bound * Exact.trunc (value / bound) := rfl
  -- the quotient may be cut to one more than its floor; then the remainder is negative
  have hturned : (if Scalar.rem value (bound : Rat) < 0 then Scalar.rem value (bound : Rat) + bound
      else Scalar.rem value (bound : Rat)) = bound * Int.fract (value / bound) := by
    rw [hrest]
    rcases Exact.trunc_eq_or (value / bound) with ht | ht
    · rw [ht, hvalue, if_neg (not_lt.mpr hlow)]
    · rw [ht, Int.cast_add, Int.cast_one, mul_add, mul_one, ← sub_sub, hvalue,
        if_pos (sub_neg.mpr hhigh), sub_add_cancel]
  show (if (bound : Rat) ≤ (if Scalar.rem value (bound : Rat) < 0 then
    Scalar.rem value (bound : Rat) + bound else Scalar.rem value (bound : Rat)) then (0 : Rat)
    else _) = _
  rw [hturned, if_neg (not_le.mpr hhigh)]
  exact hturned

theorem wrap_mem (value : Rat) {bound : Nat} (h : 0 < bound) :
    0 ≤ wrap value bound ∧ wrap value bound < bound := by
  have hbound : (0 : Rat) < bound := Nat.cast_pos.mpr h
  rw [wrap_eq value h]
  exact ⟨mul_nonneg hbound.le (Int.fract_nonneg _),
    mul_lt_of_lt_one_right hbound (Int.fract_lt_one _)⟩

/-! ## one firefly -/

/-- The ranges of what a run changes. -/
structure InBounds (f : Firefly Rat) (surface : Surface) : Prop where
  x : 0 ≤ f.x ∧ f.x < surface.width
  y : 0 ≤ f.y ∧ f.y < surface.height
  opacity : 0 ≤ f.opacity ∧ f.opacity ≤ 1
  heading : 0 ≤ f.heading ∧ f.heading < 360

end Firefly

/-- Every unit is from 0 up to, but not including, 1. -/
def Units.Proper (units : Units Rat) : Prop := ∀ n, 0 ≤ units.unit n ∧ units.unit n < 1

theorem Units.Proper.drop {units : Units Rat} (h : units.Proper) (n : Nat) :
    (units.drop n).Proper := h

namespace Firefly

theorem fadePerMs_eq : (fadePerMs : Rat) = 3 / 1000 := rfl

theorem scaled_unit {u c : Rat} (hu : 0 ≤ u ∧ u < 1) (hc : 0 < c) : 0 ≤ u * c ∧ u * c < c :=
  ⟨mul_nonneg hu.1 hc.le, mul_lt_of_lt_one_left hc hu.2⟩

theorem ofUnits_inBounds (surface : Surface) {u v : Rat} (hu : 0 ≤ u ∧ u < 1)
    (hv : 0 ≤ v ∧ v < 1) : (ofUnits surface u v).InBounds surface where
  x := scaled_unit hu (Nat.cast_pos.mpr surface.width_pos)
  y := scaled_unit hv (Nat.cast_pos.mpr surface.height_pos)
  opacity := ⟨zero_le_one, le_refl _⟩
  heading := scaled_unit hu (by decide)

variable {f : Firefly Rat} {surface : Surface}

theorem InBounds.fade (h : f.InBounds surface) (elapsed : Nat) :
    (f.fade elapsed).InBounds surface := by
  have hopacity : (f.fade elapsed).opacity = max (f.opacity - elapsed * fadePerMs) 0 :=
    Exact.greatest_eq _ _
  have hlost : (0 : Rat) ≤ elapsed * fadePerMs := by
    rw [fadePerMs_eq]
    positivity
  refine ⟨h.x, h.y, ?_, h.heading⟩
  rw [hopacity]
  exact ⟨le_max_right _ _, max_le ((sub_le_self _ hlost).trans h.opacity.2) zero_le_one⟩

variable [Trig Rat]

theorem InBounds.drift (h : f.InBounds surface) (elapsed : Nat) :
    (f.drift elapsed surface).InBounds surface :=
  ⟨wrap_mem _ surface.width_pos, wrap_mem _ surface.height_pos, h.opacity, h.heading⟩

omit [Trig Rat] in
/-- A turn takes its heading from a unit. -/
theorem InBounds.tick (h : f.InBounds surface) (elapsed : Nat) {units : Units Rat}
    (hu : units.Proper) : (f.tick elapsed units).1.InBounds surface := by
  unfold Firefly.tick
  dsimp only
  split
  · exact ⟨h.x, h.y, h.opacity, scaled_unit (hu _) (by decide)⟩
  · exact ⟨h.x, h.y, h.opacity, h.heading⟩

theorem InBounds.update (h : f.InBounds surface) (elapsed : Nat) (fading : Bool)
    {units : Units Rat} (hu : units.Proper) :
    (f.update elapsed fading surface units).1.InBounds surface := by
  cases fading with
  | true => exact h.fade elapsed
  | false => exact (h.drift elapsed).tick elapsed hu

/-- Only fading takes opacity away. -/
theorem opacity_update (f : Firefly Rat) (elapsed : Nat) (surface : Surface) (units : Units Rat) :
    (f.update elapsed false surface units).1.opacity = f.opacity := by
  show ((f.drift elapsed surface).tick elapsed units).1.opacity = f.opacity
  unfold Firefly.tick
  dsimp only
  split <;> rfl

end Firefly

/-! ## runs of a swarm -/

namespace Swarm

inductive Action where
  | reset
  | frame (elapsed : Nat) (fading : Bool)
deriving DecidableEq, Repr

section
variable {α : Type} [Scalar α] [Trig α]

def act (s : Swarm α) (units : Units α) : Action → Swarm α × Units α
  | .reset => s.reset units
  | .frame elapsed fading => s.advance elapsed fading units

/-- The units are read on from one action to the next. -/
def run (s : Swarm α) (units : Units α) : List Action → Swarm α × Units α
  | [] => (s, units)
  | a :: as => let (s, units) := s.act units a; s.run units as

end

/-- Whether the present opacities come from a frame that was fading. -/
def Action.leavesFaded (faded : Bool) : Action → Bool
  | .reset => false
  | .frame _ fading => faded || fading

def fadedSinceReset (as : List Action) : Bool := as.foldl Action.leavesFaded false

/-- All are in their ranges, and opaque unless something has faded. -/
structure InBounds (s : Swarm Rat) (surface : Surface) (faded : Bool) : Prop where
  surface_eq : s.surface = surface
  fireflies : ∀ f ∈ s.fireflies, f.InBounds surface ∧ (faded = false → f.opacity = 1)

variable {s : Swarm Rat} {surface : Surface} {units : Units Rat}

theorem scatter_inBounds (surface : Surface) (hu : units.Proper) (n : Nat) :
    ∀ f ∈ (scatter surface units n).1, f.InBounds surface ∧ (false = false → f.opacity = 1) := by
  intro f hf
  obtain ⟨i, j, rfl⟩ := mem_scatter hf
  exact ⟨Firefly.ofUnits_inBounds surface (hu i) (hu j), fun _ => rfl⟩

theorem proper_scatter (surface : Surface) (hu : units.Proper) (n : Nat) :
    (scatter surface units n).2.Proper := by
  rw [units_scatter]
  exact hu.drop _

section
variable [Trig Rat]

theorem InBounds.act {faded : Bool} (h : s.InBounds surface faded) (hu : units.Proper)
    (a : Action) :
    (s.act units a).1.InBounds surface (a.leavesFaded faded) ∧ (s.act units a).2.Proper := by
  obtain ⟨rfl, hf⟩ := h
  cases a with
  | reset => exact ⟨⟨rfl, scatter_inBounds s.surface hu _⟩, proper_scatter s.surface hu _⟩
  | frame elapsed fading =>
    refine ⟨⟨rfl, fun g hg => ?_⟩, ?_⟩
    · obtain ⟨f, hm, k, rfl⟩ := mem_updateAll hg
      obtain ⟨hb, ho⟩ := hf f hm
      refine ⟨hb.update elapsed fading (hu.drop k), fun hn => ?_⟩
      obtain ⟨rfl, rfl⟩ : faded = false ∧ fading = false := by
        simpa [Action.leavesFaded] using hn
      rw [f.opacity_update]
      exact ho rfl
    · obtain ⟨k, hk⟩ := units_updateAll elapsed fading s.surface s.fireflies units
      show (updateAll elapsed fading s.surface s.fireflies units).2.Proper
      rw [hk]
      exact hu.drop k

theorem InBounds.run {faded : Bool} (h : s.InBounds surface faded) (hu : units.Proper)
    (as : List Action) :
    (s.run units as).1.InBounds surface (as.foldl Action.leavesFaded faded) := by
  induction as generalizing s units faded with
  | nil => exact h
  | cons a as ih =>
    obtain ⟨ha, hu'⟩ := h.act hu a
    exact ih ha hu'

/-- **Fireflies stay in their ranges.**  After any resets and frames, every firefly of a random
swarm is on its surface, with an opacity from 0 to 1 and a heading of less than a full turn; it is
opaque as long as no frame was fading since it was placed. -/
theorem inBounds_run (surface : Surface) (units : Units Rat) (hu : units.Proper)
    (as : List Action) :
    ∀ f ∈ ((random surface units).1.run (random surface units).2 as).1.fireflies,
      (0 ≤ f.x ∧ f.x < surface.width) ∧ (0 ≤ f.y ∧ f.y < surface.height) ∧
        (0 ≤ f.opacity ∧ f.opacity ≤ 1) ∧ (fadedSinceReset as = false → f.opacity = 1) ∧
        (0 ≤ f.heading ∧ f.heading < 360) := by
  have hstart : (random surface units).1.InBounds surface false :=
    ⟨rfl, scatter_inBounds surface hu population⟩
  have hunits : (random surface units).2.Proper := proper_scatter surface hu population
  intro f hf
  obtain ⟨hb, ho⟩ := (hstart.run hunits as).fireflies f hf
  exact ⟨hb.x, hb.y, hb.opacity, ho, hb.heading⟩

end

/-- Exact at quarter turns, which are the only headings that `quarterUnits` gives. -/
@[reducible] def quarterTurns : Trig Rat where
  cosDegrees h := if h = 0 then 1 else if h = 180 then -1 else 0
  sinDegrees h := if h = 90 then 1 else if h = 270 then -1 else 0

def quarterUnits : Units Rat := .ofFn (Units.cycle #[3 / 4, 1 / 4] 0)

def smallSurface : Surface := ⟨3, 2, by decide, by decide⟩

theorem proper_quarterUnits : quarterUnits.Proper := by
  intro n
  have hn : n % 2 < 2 := Nat.mod_lt n (by decide)
  show 0 ≤ #[3 / 4, 1 / 4].getD (n % 2) (0 : Rat) ∧ #[3 / 4, 1 / 4].getD (n % 2) (0 : Rat) < 1
  generalize n % 2 = k at hn
  match k with
  | 0 | 1 => decide +kernel

/-- The fireflies drift up over the edge of their surface many times, turn, and fade. -/
def quarterRun : Swarm Rat :=
  (@run Rat _ quarterTurns (random smallSurface quarterUnits).1
    (random smallSurface quarterUnits).2 [.frame 990 false, .frame 100 true]).1

theorem inBounds_run_quarterTurns :
    quarterUnits.Proper ∧ ∃ f, quarterRun.fireflies.head? = some f ∧
      (f.y, f.opacity) = (1, 7 / 10) ∧ (0 ≤ f.x ∧ f.x < 3) ∧ (0 ≤ f.y ∧ f.y < 2) ∧
      (0 ≤ f.opacity ∧ f.opacity ≤ 1) ∧ (0 ≤ f.heading ∧ f.heading < 360) := by
  have hs : (quarterRun.fireflies.head?.map fun f => (f.y, f.opacity)) = some (1, 7 / 10) := by
    decide +kernel
  obtain ⟨f, hf, he⟩ := Option.map_eq_some_iff.mp hs
  have hm : f ∈ quarterRun.fireflies := List.mem_of_head? hf
  unfold quarterRun at hm
  obtain ⟨hx, hy, ho, -, hh⟩ := @inBounds_run quarterTurns smallSurface quarterUnits
    proper_quarterUnits [.frame 990 false, .frame 100 true] f hm
  exact ⟨proper_quarterUnits, f, hf, he, hx, hy, ho, hh⟩

end Swarm
end FireflyOverlay
