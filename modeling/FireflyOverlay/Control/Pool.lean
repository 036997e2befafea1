import FireflyOverlay.Control

/-!
# Controls and their clones

A control can be cloned; all clones share one state.  A `ControlPool` holds the shared states, and
for every control that was handed out the state that it belongs to.

* `ControlPool.create`, `ControlPool.clone`   hand out a control with a state of its own, or one
                                              that shares the state of another;
* `ControlPool.update`   a change through one control, which all clones of it see;
* `ControlPool.read?`    the state that a control shows.
-/

namespace FireflyOverlay

structure ControlPool where
  states : List Control
  /-- for each control, the place of its state -/
  handles : List Nat
deriving DecidableEq, Repr

namespace ControlPool

def empty : ControlPool := ⟨[], []⟩

def create (p : ControlPool) : ControlPool :=
  ⟨p.states ++ [.initial], p.handles ++ [p.states.length]⟩

def clone (p : ControlPool) (i : Nat) : ControlPool :=
  match p.handles[i]? with
  | some place => { p with handles := p.handles ++ [place] }
  | none => p

def update (p : ControlPool) (i : Nat) (f : Control → Control) : ControlPool :=
  match p.handles[i]? with
  | some place => { p with states := p.states.modify place f }
  | none => p

def request (p : ControlPool) (i : Nat) (r : Requests) : ControlPool := p.update i (·.request r)

def reach (p : ControlPool) (i : Nat) (state : Lifecycle) : ControlPool := p.update i (·.reach state)

def read? (p : ControlPool) (i : Nat) : Option Control := do p.states[← p.handles[i]?]?

/-- What every control shows, in the order in which they were handed out. -/
def readAll (p : ControlPool) : List (Option Control) := p.handles.map fun place => p.states[place]?

theorem read?_update (p : ControlPool) (i j : Nat) (f : Control → Control) :
    (p.update i f).read? j =
      if p.handles[i]? = p.handles[j]? then (p.read? j).map f else p.read? j := by
  unfold update read?
  cases hi : p.handles[i]? with
  | none =>
    cases hj : p.handles[j]? with
    | none => simp
    | some b => simp
  | some a =>
    cases hj : p.handles[j]? with
    | none => simp
    | some b =>
      by_cases hab : a = b
      · subst hab
        simp [List.getElem?_modify]
      · simp [hab, List.getElem?_modify]

end ControlPool
end FireflyOverlay
