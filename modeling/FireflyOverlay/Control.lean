/-!
# Control of a renderer

What the threads around a renderer share with it.

* `Requests`    stop, and fade out;
* `Lifecycle`   created, preparing, running, draining, terminated, in this order;
* `Control`     the requests made so far and the state reached.  Requests are never taken back
                and the state never moves back: both only grow (`Control.request`,
                `Control.reach`).
-/

namespace FireflyOverlay

structure Requests where
  stop : Bool
  fadeOut : Bool
deriving DecidableEq, Repr

namespace Requests

def none : Requests := ⟨false, false⟩
def stopNow : Requests := ⟨true, false⟩
def fadeNow : Requests := ⟨false, true⟩

def join (a b : Requests) : Requests := ⟨a.stop || b.stop, a.fadeOut || b.fadeOut⟩

end Requests

/-! ## the lifecycle -/

inductive Lifecycle where
  | created
  | preparing
  | running
  | draining
  | terminated
deriving DecidableEq, Repr

namespace Lifecycle

def rank : Lifecycle → Nat
  | .created => 0
  | .preparing => 1
  | .running => 2
  | .draining => 3
  | .terminated => 4

def name : Lifecycle → String
  | .created => "Created"
  | .preparing => "Initializing"
  | .running => "Running"
  | .draining => "Draining"
  | .terminated => "Terminated"

/-- The later of two states. -/
def later (a b : Lifecycle) : Lifecycle := if a.rank < b.rank then b else a

end Lifecycle

/-! ## the shared state -/

structure Control where
  requests : Requests
  state : Lifecycle
deriving DecidableEq, Repr

namespace Control

def initial : Control := ⟨.none, .created⟩

def request (c : Control) (r : Requests) : Control := { c with requests := c.requests.join r }

def reach (c : Control) (state : Lifecycle) : Control := { c with state := c.state.later state }

def text (c : Control) : String :=
  s!"RenderControl \x7b stop_requested: {c.requests.stop}, " ++
    s!"fade_out_requested: {c.requests.fadeOut}, state: {c.state.name} \x7d"

end Control

/-! ## handles -/

/-- What the starter of a renderer holds: its control, and whether the renderer has returned. -/
structure RenderHandle where
  control : Control
  finished : Bool
deriving DecidableEq, Repr

def RenderHandle.text (h : RenderHandle) : String :=
  s!"RenderHandle \x7b control: {h.control.text}, finished: {h.finished} \x7d"

end FireflyOverlay
