/-!
# Frame budgets

A frame may take a given time.  `FrameBudget` measures the frames on a clock that is read by its
owner: `startFrame` answers the time since the frame before started, `remaining` what the present
frame has left.  The first frame is measured from the creation of the budget.
-/

namespace FireflyOverlay

structure FrameBudget where
  /-- the time that a frame may take, in milliseconds -/
  target : Nat
  frameStart : Nat
deriving DecidableEq, Repr

namespace FrameBudget

def start (target now : Nat) : FrameBudget := ⟨target, now⟩

def startFrame (b : FrameBudget) (now : Nat) : Nat × FrameBudget :=
  (now - b.frameStart, { b with frameStart := now })

/-- Nothing is left of a frame that runs long. -/
def remaining (b : FrameBudget) (now : Nat) : Nat := b.target - (now - b.frameStart)

theorem remaining_le (b : FrameBudget) (now : Nat) : b.remaining now ≤ b.target := Nat.sub_le _ _

end FrameBudget
end FireflyOverlay
