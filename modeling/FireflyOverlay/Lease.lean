import FireflyOverlay.Session

/-!
# Acquiring and releasing

* `acquire`          a display, a config, a context and a surface for a drawable, made current, one
                     step after the other (`acquireAll`); what was acquired before a failure stays
                     in the lease, for `release`;
* `ensureCurrent`    binds the lease's surface and context again where something else is current;
* `present`          publishes the frame;
* `release`          unbinds, then destroys the context and the surface that the lease holds;
* `DisplayError`     the causes of failure, with their texts.
-/

namespace FireflyOverlay

inductive DisplayError where
  | noDisplay (code : ErrorCode)
  | openFailed (code : ErrorCode)
  | chooseConfigFailed (code : ErrorCode)
  | noMatchingConfig
  | createContextFailed (code : ErrorCode)
  | createSurfaceFailed (code : ErrorCode)
  | makeCurrentFailed (code : ErrorCode)
  | contextLost (code : ErrorCode)
  | swapFailed (code : ErrorCode)
  | notAcquired
deriving DecidableEq, Repr

namespace DisplayError

def message : DisplayError → String
  | .noDisplay c => "Unable to get the default display: " ++ c.text
  | .openFailed c => "Unable to initialize the display: " ++ c.text
  | .chooseConfigFailed c => "Choosing a pixel-format config failed: " ++ c.text
  | .noMatchingConfig => "No config matches the requested pixel format"
  | .createContextFailed c => "Unable to create a rendering context: " ++ c.text
  | .createSurfaceFailed c => "Unable to create a window surface for the drawable: " ++ c.text
  | .makeCurrentFailed c => "Unable to make the context current: " ++ c.text
  | .contextLost c => "Unable to re-bind the lost context: " ++ c.text
  | .swapFailed c => "Unable to swap buffers: " ++ c.text
  | .notAcquired => "The graphics context is not initialized"

/-- The word for the kind of failure. -/
def kind : DisplayError → String
  | .noDisplay _ => "NoDisplay"
  | .openFailed _ => "InitializeFailed"
  | .chooseConfigFailed _ => "ChooseConfigFailed"
  | .noMatchingConfig => "NoMatchingConfig"
  | .createContextFailed _ => "CreateContextFailed"
  | .createSurfaceFailed _ => "CreateSurfaceFailed"
  | .makeCurrentFailed _ => "MakeCurrentFailed"
  | .contextLost _ => "ContextLost"
  | .swapFailed _ => "SwapFailed"
  | .notAcquired => "NotInitialized"

def code? : DisplayError → Option ErrorCode
  | .noDisplay c | .openFailed c | .chooseConfigFailed c | .createContextFailed c
  | .createSurfaceFailed c | .makeCurrentFailed c | .contextLost c | .swapFailed c => some c
  | .noMatchingConfig | .notAcquired => none

/-- The kind, with its code where it has one. -/
def text (e : DisplayError) : String :=
  match e.code? with
  | some c => s!"{e.kind}(ErrorCode({c.value}))"
  | none => e.kind

end DisplayError

variable {α σ : Type} [Display α σ]

/-- Steps that may also fail for a cause. -/
abbrev Attempt (α σ : Type) := ExceptT DisplayError (Play α σ)

def ask (c : Call α) : Attempt α σ c.Reply := ExceptT.lift (perform c)

def keep (f : Lease → Lease) : Attempt α σ Unit := ExceptT.lift (holdLease f)

/-- Fails with the code of the last call. -/
def failWith {β : Type} (cause : ErrorCode → DisplayError) : Attempt α σ β := do
  throw (cause (← ask .lastError))

/-! ## acquiring -/

/-- Asks for a handle, and puts it into the lease. -/
def getHandle {β : Type} (c : Call α) (read : c.Reply → Option β)
    (cause : ErrorCode → DisplayError) (put : β → Lease → Lease) : Attempt α σ β := do
  match read (← ask c) with
  | none => failWith cause
  | some handle =>
    keep (put handle)
    return handle

def getDisplay : Attempt α σ DisplayId :=
  getHandle .defaultDisplay id .noDisplay fun display l => { l with display := some display }

def openDisplay (display : DisplayId) : Attempt α σ (Nat × Nat) :=
  getHandle (.openDisplay display) id .openFailed fun _ l => l

/-- The choice of a config answers its code itself, and may find none. -/
def getConfig (display : DisplayId) : Attempt α σ ConfigId := do
  match ← ask (.chooseConfig display .overlay) with
  | .error code => throw (.chooseConfigFailed code)
  | .ok none => throw .noMatchingConfig
  | .ok (some config) =>
    keep fun l => { l with config := some config }
    return config

def getContext (display : DisplayId) (config : ConfigId) : Attempt α σ ContextId :=
  getHandle (.createContext display config) id .createContextFailed fun context l =>
    { l with context := some context }

def getSurface (display : DisplayId) (config : ConfigId) (window : WindowId) :
    Attempt α σ SurfaceId :=
  getHandle (.createSurface display config window) id .createSurfaceFailed fun surface l =>
    { l with surface := some surface }

def bindFirst (display : DisplayId) (b : Binding) : Attempt α σ Unit := do
  let bound ← ask (.makeCurrent display (some b))
  if bound then return () else failWith .makeCurrentFailed

def announce (version : Nat × Nat) (config : ConfigId) : Play α σ Unit := do
  let name := Display.configText α (← get).display config
  log .info (s!"Graphics context ready\n  display version: {version.1}.{version.2}\n  config: "
    ++ name ++ "\n")

def acquireAll (window : WindowId) : Attempt α σ Unit := do
  let display ← getDisplay
  let version ← openDisplay display
  let config ← getConfig display
  let context ← getContext display config
  let surface ← getSurface display config window
  bindFirst display ⟨surface, context⟩
  ExceptT.lift (announce version config)

def acquire (window : WindowId) : Play α σ (Except DisplayError Unit) := do
  let result ← (acquireAll window).run
  if let .error e := result then
    log .error ("Graphics context initialization failed: " ++ e.message)
  return result

/-! ## using -/

/-- The handles that are needed to bind and to present. -/
def Lease.bound? (l : Lease) : Option (DisplayId × Binding) := do
  return (← l.display, ⟨← l.surface, ← l.context⟩)

/-- Whether a binding is what the display reports as current. -/
def isCurrent (b : Binding) : Play α σ Bool := do
  if (← perform .currentContext) = some b.context then
    return (← perform .currentSurface) = some b.surface
  else return false

def ensureCurrent : Play α σ (Except DisplayError Unit) := do
  let some (display, binding) := (← get).lease.bound? | return .error .notAcquired
  if ← isCurrent binding then return .ok ()
  log .debug "Graphics context was detached, re-binding"
  let bound ← perform (.makeCurrent display (some binding))
  if bound then return .ok ()
  let e := DisplayError.contextLost (← perform .lastError)
  log .error e.message
  return .error e

def present : Play α σ (Except DisplayError Unit) := do
  let some (display, binding) := (← get).lease.bound? | return .error .notAcquired
  let swapped ← perform (.swapBuffers display binding.surface)
  if swapped then return .ok ()
  let e := DisplayError.swapFailed (← perform .lastError)
  log .error ("Could not swap buffers: " ++ e.message)
  return .error e

/-! ## releasing -/

/-- A step of the release; if it fails, warns with the code of the last call. -/
def orWarn (step : Play α σ Bool) (complaint : String) : Play α σ Unit := do
  if !(← step) then
    let code ← perform .lastError
    log .warn (complaint ++ ": " ++ code.text)

/-- A handle leaves the lease before its call is made, so that no handle is released twice. -/
def giveUp (held : Option Nat) (drop : Lease → Lease) (destroy : Nat → Play α σ Bool)
    (complaint : String) : Play α σ Unit := do
  match held with
  | none => return
  | some handle =>
    holdLease drop
    orWarn (destroy handle) complaint

def release : Play α σ Unit := do
  let some display := (← get).lease.display | return
  holdLease fun l => { l with display := none }
  orWarn (perform (.makeCurrent display none)) "Unable to release the current context"
  giveUp (← get).lease.context (fun l => { l with context := none })
    (fun context => perform (.destroyContext display context)) "Unable to destroy the context"
  giveUp (← get).lease.surface (fun l => { l with surface := none })
    (fun surface => perform (.destroySurface display surface)) "Unable to destroy the surface"
  holdLease fun l => { l with config := none }
  log .debug "Graphics context shut down"

end FireflyOverlay
