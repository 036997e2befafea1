import FireflyOverlay.Display

/-!
# Sessions

A session is what a renderer acts on: a display, the handles that it holds there, and the control
that it shares.  Everything that happens is written into a trace.

* `Lease`      the handles that one drawable has acquired;
* `Event`      a call with its reply, a log record, requests that arrive, or a state that was
               reached;
* `Play`       steps of a session, which a crashing call cuts short; what was done stays done;
* `perform`, `log`, `reach`   the steps;
* `Session.calls`, `Session.logs`, `Session.states`   the views of the trace.
-/

namespace FireflyOverlay

structure Lease where
  display : Option DisplayId
  config : Option ConfigId
  context : Option ContextId
  surface : Option SurfaceId
deriving DecidableEq, Repr

def Lease.empty : Lease := ⟨none, none, none, none⟩

/-- Every handle has been acquired. -/
def Lease.isComplete (l : Lease) : Bool :=
  l.display.isSome && l.config.isSome && l.context.isSome && l.surface.isSome

/-- `reply` is none where the call crashed. -/
inductive Event (α : Type) where
  | call (call : Call α) (reply : Option call.Reply)
  | log (record : LogRecord)
  | request (requests : Requests)
  | state (state : Lifecycle)

structure Session (α σ : Type) where
  display : σ
  lease : Lease
  control : Control
  trace : Array (Event α)

/-- A call crashed. -/
inductive Crash where
  | crash
deriving DecidableEq, Repr

abbrev Play (α σ : Type) := ExceptT Crash (StateM (Session α σ))

variable {α σ : Type}

namespace Session

def ofDisplay (display : σ) : Session α σ := ⟨display, .empty, .initial, #[]⟩

def record (s : Session α σ) (e : Event α) : Session α σ := { s with trace := s.trace.push e }

def recordLogs (s : Session α σ) (logs : List LogRecord) : Session α σ :=
  { s with trace := s.trace ++ (logs.map Event.log).toArray }

/-- Requests arrive; where none do, nothing happens. -/
def receive (s : Session α σ) (r : Requests) : Session α σ :=
  if r = .none then s else { s.record (.request r) with control := s.control.request r }

/-- The calls that were made; questions are left out. -/
def calls (s : Session α σ) : List (Call α) :=
  s.trace.toList.filterMap fun
    | .call c _ => if c.isQuery then none else some c
    | _ => none

def logs (s : Session α σ) : List LogRecord :=
  s.trace.toList.filterMap fun
    | .log r => some r
    | _ => none

def states (s : Session α σ) : List Lifecycle :=
  s.trace.toList.filterMap fun
    | .state l => some l
    | _ => none

end Session

/-! ## steps -/

def perform [Display α σ] (c : Call α) : Play α σ c.Reply := fun s =>
  let (reaction, display) := Display.step c s.display
  let s := ({ s with display }.record (.call c reaction.reply)).recordLogs reaction.logs
  let s := s.receive reaction.requests
  match reaction.reply with
  | some reply => (.ok reply, s)
  | none => (.error .crash, s)

def performDraw [Display α σ] (c : DrawCall α) : Play α σ c.Reply := perform (.draw c)

/-- Draw calls one after the other. -/
def performAll [Display α σ] : List (DrawCall α) → Play α σ Unit
  | [] => pure ()
  | c :: cs => do
    let _ ← performDraw c
    performAll cs

def log (level : Level) (message : String) : Play α σ Unit :=
  modify fun s => s.record (.log ⟨level, message⟩)

/-- Publishes a state; only a later one than before counts. -/
def reach (state : Lifecycle) : Play α σ Unit :=
  modify fun s =>
    if s.control.state.rank < state.rank then
      let message := s!"Render thread {s.control.state.name} -> {state.name}"
      ({ s with control := s.control.reach state }.record (.log ⟨.debug, message⟩)).record
        (.state state)
    else s

def request (r : Requests) : Play α σ Unit := modify (·.receive r)

def holdLease (f : Lease → Lease) : Play α σ Unit := modify fun s => { s with lease := f s.lease }

end FireflyOverlay
