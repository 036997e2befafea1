import FireflyOverlay.Display

/-!
# A display that plays a part

`StandIn` draws nothing.  It gives out handles from one counter, keeps which contexts and surfaces
are live and what is current, and follows a script:

* `StandIn.faults`   steps that fail until they are mended, each with the code that it leaves;
* `StandIn.cues`     what happens inside a swap of a given number: requests reach the renderer,
                     the binding is lost, later swaps fail;
* `StandIn.crashAt`  the name of a call that crashes once.
-/

namespace FireflyOverlay

/-! ## the script -/

/-- A step that can fail.  `noConfig` is the choice of a config that succeeds but finds none. -/
inductive Step where
  | defaultDisplay
  | openDisplay
  | chooseConfig
  | noConfig
  | createContext
  | createSurface
  | bind
  | unbind
  | swap
  | destroyContext
  | destroySurface
deriving DecidableEq, Repr

namespace Step

def all : List Step :=
  [.defaultDisplay, .openDisplay, .chooseConfig, .noConfig, .createContext, .createSurface, .bind,
   .unbind, .swap, .destroyContext, .destroySurface]

def name : Step → String
  | .defaultDisplay => "default_display"
  | .openDisplay => "initialize"
  | .chooseConfig => "choose_config"
  | .noConfig => "no_config"
  | .createContext => "create_context"
  | .createSurface => "create_window_surface"
  | .bind => "make_current"
  | .unbind => "unbind"
  | .swap => "swap_buffers"
  | .destroyContext => "destroy_context"
  | .destroySurface => "destroy_surface"

def ofName? (s : String) : Option Step := all.find? (·.name = s)

theorem ofName?_name (s : Step) : ofName? s.name = some s := by cases s <;> decide

/-- The code that a display of the usual kind reports for a failure of the step. -/
def usualCode : Step → Option ErrorCode
  | .defaultDisplay => some .badDisplay
  | .openDisplay => some .notInitialized
  | .chooseConfig => some .badAttribute
  | .noConfig => none
  | .createContext => some .badConfig
  | .createSurface => some .badNativeWindow
  | .bind | .unbind => some .contextLost
  | .swap => some .badSurface
  | .destroyContext => some .badContext
  | .destroySurface => some .badSurface

end Step

structure Fault where
  step : Step
  /-- the code that the failure reports -/
  code : Option ErrorCode
  /-- whether a code is kept for `lastError` -/
  kept : Bool
deriving DecidableEq, Repr

def Fault.usual (step : Step) : Fault := ⟨step, step.usualCode, true⟩

/-- Something that happens inside one swap. -/
inductive Cue where
  | request (requests : Requests)
  /-- the binding is lost; with a fault it is also refused from then on -/
  | lose (refusal : Option Fault)
  /-- this and later swaps fail -/
  | failSwap (fault : Fault)
deriving DecidableEq, Repr

def Cue.sameKind : Cue → Cue → Bool
  | .request _, .request _ | .lose _, .lose _ | .failSwap _, .failSwap _ => true
  | _, _ => false

structure StandIn where
  faults : List Fault
  /-- a new fault replaces all others -/
  oneFault : Bool
  /-- cues with the number of their swap, the first swap being 1 -/
  cues : List (Nat × Cue)
  crashAt : Option String
  nextHandle : Nat
  nextTexture : Nat
  contexts : List ContextId
  surfaces : List SurfaceId
  current : Option Binding
  lastError : Option ErrorCode
  swaps : Nat

namespace StandIn

def initial : StandIn :=
  { faults := [], oneFault := false, cues := [], crashAt := none, nextHandle := 1,
    nextTexture := 1, contexts := [], surfaces := [], current := none, lastError := none,
    swaps := 0 }

def mend (s : StandIn) (step : Step) : StandIn :=
  { s with faults := s.faults.filter (·.step ≠ step) }

def fail (s : StandIn) (fault : Fault) : StandIn :=
  if s.oneFault then { s with faults := [fault] }
  else { s with faults := fault :: (s.mend fault.step).faults }

def faultAt (s : StandIn) (step : Step) : Option Fault := s.faults.find? (·.step = step)

/-- A failing step keeps its code, if it has one to keep. -/
def afterFault (s : StandIn) (fault : Fault) : StandIn :=
  match fault.code with
  | some code => if fault.kept then { s with lastError := some code } else s
  | none => s

/-! ## cues -/

def addCue (s : StandIn) (swap : Nat) (c : Cue) : StandIn :=
  { s with cues := s.cues ++ [(swap, c)] }

/-- A cue in place of all cues of its kind. -/
def setCue (s : StandIn) (swap : Nat) (c : Cue) : StandIn :=
  { s with cues := s.cues.filter (!c.sameKind ·.2) ++ [(swap, c)] }

def cuesNow (s : StandIn) : List Cue := (s.cues.filter (·.1 = s.swaps)).map (·.2)

def requestsNow (s : StandIn) : Requests :=
  s.cuesNow.foldl (fun r cue => match cue with | .request q => r.join q | _ => r) .none

def detach (s : StandIn) : StandIn := { s with current := none }

def playLoss (s : StandIn) : Cue → StandIn
  | .lose (some refusal) => s.detach.fail refusal
  | .lose none => s.detach
  | _ => s

def playFailure (s : StandIn) : Cue → StandIn
  | .failSwap fault => s.fail fault
  | _ => s

/-- Losses come before failures. -/
def playCues (s : StandIn) : StandIn := s.cuesNow.foldl playFailure (s.cuesNow.foldl playLoss s)

/-! ## calls -/

variable {β : Type}

/-- Answers a step: with the sentinel if it fails, else as it goes. -/
def attempt (s : StandIn) (step : Step) (sentinel : β) (succeed : StandIn → β × StandIn) :
    Reaction β × StandIn :=
  match s.faultAt step with
  | some fault => (.answer sentinel, s.afterFault fault)
  | none => let (reply, s) := succeed s; (.answer reply, s)

def takeHandle (s : StandIn) : Nat × StandIn :=
  (s.nextHandle, { s with nextHandle := s.nextHandle + 1 })

def swap (s : StandIn) : Reaction Bool × StandIn :=
  let s := { s with swaps := s.swaps + 1 }
  let (reaction, after) := s.playCues.attempt .swap false fun s => (true, s)
  ({ reaction with requests := s.requestsNow }, after)

def draw {α : Type} (s : StandIn) : (c : DrawCall α) → Reaction c.Reply × StandIn
  | .generateTexture => (.answer s.nextTexture, { s with nextTexture := s.nextTexture + 1 })
  | .setClearColor _ | .clear | .setViewport _ _ | .setProjection _ | .setModelView _
  | .setTexturing _ | .setBlend _ | .bindTexture _ | .setTextureFilters _ _
  | .uploadTexture _ _ _ | .setFrontFace _ | .enableQuadArrays | .disableQuadArrays
  | .setColor _ | .drawElements _ => (.answer (), s)

def respond {α : Type} (s : StandIn) : (c : Call α) → Reaction c.Reply × StandIn
  | .defaultDisplay => s.attempt .defaultDisplay none fun s =>
    let (h, s) := s.takeHandle
    (some h, s)
  | .openDisplay _ => s.attempt .openDisplay none fun s => (some (1, 4), s)
  | .chooseConfig _ _ =>
    match s.faultAt .chooseConfig, s.faultAt .noConfig with
    | some fault, _ => (.answer (.error (fault.code.getD .success)), s.afterFault fault)
    | none, some fault => (.answer (.ok none), s.afterFault fault)
    | none, none => let (h, s) := s.takeHandle; (.answer (.ok (some h)), s)
  | .createContext _ _ => s.attempt .createContext none fun s =>
    let (h, s) := s.takeHandle
    (some h, { s with contexts := s.contexts ++ [h] })
  | .createSurface _ _ _ => s.attempt .createSurface none fun s =>
    let (h, s) := s.takeHandle
    (some h, { s with surfaces := s.surfaces ++ [h] })
  | .makeCurrent _ binding =>
    s.attempt (if binding.isSome then .bind else .unbind) false fun s =>
      (true, { s with current := binding })
  | .currentContext => (.answer (s.current.map (·.context)), s)
  | .currentSurface => (.answer (s.current.map (·.surface)), s)
  | .swapBuffers _ _ => s.swap
  | .destroyContext _ c => s.attempt .destroyContext false fun s =>
    (s.contexts.contains c, { s with contexts := s.contexts.erase c })
  | .destroySurface _ c => s.attempt .destroySurface false fun s =>
    (s.surfaces.contains c, { s with surfaces := s.surfaces.erase c })
  | .lastError => (.answer (s.lastError.getD .success), { s with lastError := none })
  | .draw c => s.draw c

/-- A call that is due to crash does nothing else. -/
def step {α : Type} (c : Call α) (s : StandIn) : Reaction c.Reply × StandIn :=
  if s.crashAt = some c.name then (.crash, { s with crashAt := none }) else s.respond c

instance {α : Type} : Display α StandIn where
  step := step
  configText _ config := toString config

end StandIn
end FireflyOverlay
