import FireflyOverlay.Firefly

/-!
# The swarm

A fixed population of fireflies on one surface.

* `Swarm.random`, `Swarm.reset`   every firefly is placed anew, in the order of the population;
* `Swarm.advance`   one update of every firefly; they read the random units in turn;
* `Swarm.draws`     the calls that draw them, in the same order.
-/

namespace FireflyOverlay

/-- The size of the population. -/
def population : Nat := 100

structure Swarm (α : Type) where
  fireflies : List (Firefly α)
  surface : Surface

namespace Swarm

variable {α : Type} [Scalar α]

/-- Places as many fireflies as there are entries. -/
def scatter (surface : Surface) (units : Units α) : Nat → List (Firefly α) × Units α
  | 0 => ([], units)
  | n + 1 =>
    let (f, units) := Firefly.reset surface units
    let (rest, units) := scatter surface units n
    (f :: rest, units)

theorem length_scatter (surface : Surface) (units : Units α) (n : Nat) :
    (scatter surface units n).1.length = n := by
  induction n generalizing units with
  | zero => rfl
  | succ n ih => exact congrArg (· + 1) (ih _)

def random (surface : Surface) (units : Units α) : Swarm α × Units α :=
  let (fireflies, units) := scatter surface units population
  (⟨fireflies, surface⟩, units)

def reset (s : Swarm α) (units : Units α) : Swarm α × Units α :=
  let (fireflies, units) := scatter s.surface units s.fireflies.length
  ({ s with fireflies }, units)

theorem length_random (surface : Surface) (units : Units α) :
    (random surface units).1.fireflies.length = population :=
  length_scatter surface units population

theorem length_reset (s : Swarm α) (units : Units α) :
    (s.reset units).1.fireflies.length = s.fireflies.length :=
  length_scatter s.surface units s.fireflies.length

/-- Updates one firefly after the other. -/
def updateAll [Trig α] (elapsed : Nat) (fading : Bool) (surface : Surface) :
    List (Firefly α) → Units α → List (Firefly α) × Units α
  | [], units => ([], units)
  | f :: fs, units =>
    let (f, units) := f.update elapsed fading surface units
    let (fs, units) := updateAll elapsed fading surface fs units
    (f :: fs, units)

def advance [Trig α] (s : Swarm α) (elapsed : Nat) (fading : Bool) (units : Units α) :
    Swarm α × Units α :=
  let (fireflies, units) := updateAll elapsed fading s.surface s.fireflies units
  ({ s with fireflies }, units)

theorem length_updateAll [Trig α] (elapsed : Nat) (fading : Bool) (surface : Surface)
    (fs : List (Firefly α)) (units : Units α) :
    (updateAll elapsed fading surface fs units).1.length = fs.length := by
  induction fs generalizing units with
  | nil => rfl
  | cons f fs ih => exact congrArg (· + 1) (ih _)

theorem length_advance [Trig α] (s : Swarm α) (elapsed : Nat) (fading : Bool) (units : Units α) :
    (s.advance elapsed fading units).1.fireflies.length = s.fireflies.length :=
  length_updateAll elapsed fading s.surface s.fireflies units

def draws (s : Swarm α) : List (DrawCall α) := s.fireflies.flatMap Firefly.draws

end Swarm
end FireflyOverlay
