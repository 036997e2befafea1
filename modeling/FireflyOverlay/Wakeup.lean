/-!
# Waking a sleeping worker

The worker of a renderer sleeps between frames, and a stop request has to wake it.  Everything that
is shared is written and read in single steps, which interleave in any order:

* the worker announces itself once; then, again and again, it tests the stop flag, draws, tests the
  flag a second time, and parks.  A parked worker waits for a token, which it takes, or for its
  time to run out;
* a stop request raises the flag, looks whether there is a worker, and leaves a token for it.

`Wakeup.step?` is one step of one of them; `Wakeup.run?` a sequence of steps; `Wakeup.isBlocked`
holds of a worker that waits without a token.
-/

namespace FireflyOverlay
namespace Wakeup

/-- Where the worker is. -/
inductive Worker where
  | announcing
  /-- before the test that begins a frame -/
  | testing
  /-- in the frame, before the second test -/
  | drawing
  /-- after the second test, about to wait -/
  | settling
  | waiting
  | done
deriving DecidableEq, Repr

/-- Where a stop request is. -/
inductive Request where
  | raising
  | looking
  /-- the worker was there, and a token is due -/
  | handing
  | done
deriving DecidableEq, Repr

structure State where
  stop : Bool
  announced : Bool
  token : Bool
  worker : Worker
  requests : List Request
deriving DecidableEq, Repr

/-- A worker that has not begun, and some stop requests that have not either. -/
def initial (requests : Nat) : State :=
  ⟨false, false, false, .announcing, List.replicate requests .raising⟩

inductive Move where
  | worker
  /-- the time of a waiting worker runs out -/
  | timeout
  /-- there is no time left to sleep in this frame -/
  | skip
  | request (i : Nat)
deriving DecidableEq, Repr

def moveWorker (s : State) : Option State :=
  match s.worker with
  | .announcing => some { s with announced := true, worker := .testing }
  | .testing => some { s with worker := if s.stop then .done else .drawing }
  | .drawing => some { s with worker := if s.stop then .testing else .settling }
  | .settling => some { s with worker := .waiting }
  | .waiting => if s.token then some { s with token := false, worker := .testing } else none
  | .done => none

def moveRequest (s : State) (i : Nat) : Option State :=
  match s.requests[i]? with
  | some .raising => some { s with stop := true, requests := s.requests.set i .looking }
  | some .looking =>
    some { s with requests := s.requests.set i (if s.announced then .handing else .done) }
  | some .handing => some { s with token := true, requests := s.requests.set i .done }
  | some .done | none => none

def step? (m : Move) (s : State) : Option State :=
  match m with
  | .worker => moveWorker s
  | .timeout => if s.worker = .waiting then some { s with worker := .testing } else none
  | .skip => if s.worker = .drawing then some { s with worker := .testing } else none
  | .request i => moveRequest s i

def run? (moves : List Move) (s : State) : Option State := moves.foldlM (fun s m => step? m s) s

/-- The worker waits, and there is no token for it. -/
def isBlocked (s : State) : Bool := s.worker == .waiting && !s.token

/-- A request has raised the flag and has not yet come to its end. -/
def isUnderway : Request → Bool
  | .looking | .handing => true
  | .raising | .done => false

theorem run?_cons (m : Move) (moves : List Move) (s : State) :
    run? (m :: moves) s = (step? m s).bind (run? moves) := rfl

end Wakeup
end FireflyOverlay
