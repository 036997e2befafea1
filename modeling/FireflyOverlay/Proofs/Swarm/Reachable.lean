import FireflyOverlay.Proofs.Drawing.Coverage
import FireflyOverlay.Swarm

/-!
# Reachable swarms

* `Swarm.Reachable`    what resets and frames make of a random swarm;
* `mem_scatter`, `mem_updateAll`   a firefly of a swarm comes from two units, or from the update of a
                       firefly that was there; the stream of units is read on, and never back;
* `Reachable.forall`   what holds of a firefly that is placed anew, and is kept by its updates,
                       holds of every firefly of a reachable swarm;
* `Reachable.opacity_nonneg`   no firefly takes light away.
-/

namespace FireflyOverlay
namespace Swarm

section
variable {α : Type} [Scalar α] [Trig α]

inductive Reachable : Swarm α → Prop
  | random (surface : Surface) (units : Units α) : Reachable (Swarm.random surface units).1
  | reset {s} (units : Units α) (h : Reachable s) : Reachable (s.reset units).1
  | advance {s} (elapsed : Nat) (fading : Bool) (units : Units α) (h : Reachable s) :
    Reachable (s.advance elapsed fading units).1

/-! ### who is in a swarm -/

omit [Trig α] in
/-- Each firefly takes two units. -/
theorem units_scatter (surface : Surface) (units : Units α) (n : Nat) :
    (scatter surface units n).2 = units.drop (2 * n) := by
  induction n generalizing units with
  | zero => rfl
  | succ n ih =>
    have hdrop : (units.drop 2).drop (2 * n) = units.drop (2 * (n + 1)) := by
      rw [Units.drop_drop, Nat.mul_add, Nat.add_comm]
    exact (ih (units.drop 2)).trans hdrop

omit [Trig α] in
theorem mem_scatter {surface : Surface} {units : Units α} {n : Nat} {f : Firefly α}
    (h : f ∈ (scatter surface units n).1) :
    ∃ i j, f = .ofUnits surface (units.unit i) (units.unit j) := by
  induction n generalizing units with
  | zero => exact absurd h List.not_mem_nil
  | succ n ih =>
    rcases List.mem_cons.mp h with rfl | h
    · exact ⟨units.used, units.used + 1, rfl⟩
    · have hrest : f ∈ (scatter surface (units.drop 2) n).1 := h
      obtain ⟨i, j, hf⟩ := ih hrest
      exact ⟨i, j, hf⟩

/-- An update takes a unit or none. -/
theorem units_update (f : Firefly α) (elapsed : Nat) (fading : Bool) (surface : Surface)
    (units : Units α) : ∃ k, (f.update elapsed fading surface units).2 = units.drop k := by
  unfold Firefly.update
  split
  · exact ⟨0, rfl⟩
  · unfold Firefly.tick
    dsimp only
    split
    · exact ⟨1, rfl⟩
    · exact ⟨0, rfl⟩

theorem units_updateAll (elapsed : Nat) (fading : Bool) (surface : Surface)
    (fs : List (Firefly α)) (units : Units α) :
    ∃ k, (updateAll elapsed fading surface fs units).2 = units.drop k := by
  induction fs generalizing units with
  | nil => exact ⟨0, rfl⟩
  | cons f fs ih =>
    obtain ⟨k, hk⟩ := units_update f elapsed fading surface units
    obtain ⟨l, hl⟩ := ih (units.drop k)
    refine ⟨k + l, ?_⟩
    rw [← Units.drop_drop, ← hl, ← hk]
    rfl

theorem mem_updateAll {elapsed : Nat} {fading : Bool} {surface : Surface}
    {fs : List (Firefly α)} {units : Units α} {g : Firefly α}
    (h : g ∈ (updateAll elapsed fading surface fs units).1) :
    ∃ f ∈ fs, ∃ k, g = (f.update elapsed fading surface (units.drop k)).1 := by
  induction fs generalizing units with
  | nil => exact absurd h List.not_mem_nil
  | cons f fs ih =>
    rcases List.mem_cons.mp h with rfl | h
    · exact ⟨f, List.mem_cons_self, 0, rfl⟩
    · obtain ⟨k, hk⟩ := units_update f elapsed fading surface units
      have hg : g ∈ (updateAll elapsed fading surface fs (units.drop k)).1 := hk ▸ h
      obtain ⟨f', hf, l, rfl⟩ := ih hg
      exact ⟨f', List.mem_cons_of_mem f hf, k + l, by rw [Units.drop_drop]⟩

/-! ### what holds of all -/

variable {P : Firefly α → Prop}

theorem Reachable.forall {s : Swarm α} (h : s.Reachable)
    (fresh : ∀ surface u v, P (.ofUnits surface u v))
    (kept : ∀ f elapsed fading surface units, P f → P (f.update elapsed fading surface units).1) :
    ∀ f ∈ s.fireflies, P f := by
  have hscatter : ∀ surface (units : Units α) n, ∀ f ∈ (scatter surface units n).1, P f := by
    intro surface units n f hf
    obtain ⟨i, j, rfl⟩ := mem_scatter hf
    exact fresh ..
  induction h with
  | random surface units => exact hscatter surface units population
  | @reset s units _ ih => exact hscatter s.surface units s.fireflies.length
  | advance elapsed fading units _ ih =>
    intro f hf
    obtain ⟨g, hg, k, rfl⟩ := mem_updateAll hf
    exact kept _ _ _ _ _ (ih g hg)

end

variable [Trig Rat]

theorem opacity_update_nonneg {f : Firefly Rat} (h : 0 ≤ f.opacity) (elapsed : Nat) (fading : Bool)
    (surface : Surface) (units : Units Rat) :
    0 ≤ (f.update elapsed fading surface units).1.opacity := by
  unfold Firefly.update
  split
  · show 0 ≤ Scalar.greatest (f.opacity - _) 0
    rw [Exact.greatest_eq]
    exact le_max_right _ _
  · unfold Firefly.tick
    dsimp only
    split <;> exact h

theorem Reachable.opacity_nonneg {s : Swarm Rat} (h : s.Reachable) :
    ∀ f ∈ s.fireflies, 0 ≤ f.opacity :=
  h.forall (fun _ _ _ => zero_le_one (α := Rat)) fun _ elapsed fading surface units hf =>
    opacity_update_nonneg hf elapsed fading surface units

end Swarm
end FireflyOverlay
