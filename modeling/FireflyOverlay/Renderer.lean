import FireflyOverlay.Lease
import FireflyOverlay.Sprite
import FireflyOverlay.Swarm

/-!
# The renderer

A renderer runs once: it acquires a display, draws frames until it is asked to stop or until a frame
fails, and releases what it acquired, on every way out.

* `Tick`             what the outside does between two frames: time goes by, requests arrive;
* `Scene`            what there is only once the display is acquired: texture, swarm, random units;
* `Renderer.prepare` acquires the display and sets up the scene;
* `frames`           the frame loop over a list of ticks.  The stop request is looked at before each
                     frame; when no ticks are left, a stop request arrives;
* `Renderer.run`     the whole life.  When a call crashes, the renderer counts as terminated first,
                     and is released after that;
* `Exit`             why a run ended.
-/

namespace FireflyOverlay

inductive Exit where
  | stopped
  | initFailed (e : DisplayError)
  | presentFailed (e : DisplayError)
  | contextLost (e : DisplayError)
deriving DecidableEq, Repr

namespace Exit

def name : Exit → String
  | .stopped => "Stopped"
  | .initFailed _ => "InitFailed"
  | .presentFailed _ => "PresentFailed"
  | .contextLost _ => "ContextLost"

def error? : Exit → Option DisplayError
  | .stopped => none
  | .initFailed e | .presentFailed e | .contextLost e => some e

/-- The name, with its error where it has one. -/
def text (e : Exit) : String :=
  match e.error? with
  | some error => s!"{e.name}({error.text})"
  | none => e.name

end Exit

structure Tick where
  /-- milliseconds since the frame before -/
  elapsed : Nat
  requests : Requests
deriving DecidableEq, Repr

structure Scene (α : Type) where
  texture : TextureId
  swarm : Swarm α
  units : Units α

variable {α σ : Type} [Scalar α] [Display α σ]

/-! ## frames -/

/-- What is drawn before the fireflies. -/
def frameSetup (texture : TextureId) : List (DrawCall α) :=
  [.clear, .setTexturing true, .bindTexture texture, .setBlend (some .additive)]

/-- The fade-out request is looked at once for the whole swarm. -/
def Scene.drawFrame [Trig α] (s : Scene α) (elapsed : Nat) : Play α σ (Scene α) := do
  performAll (frameSetup s.texture)
  let fading := (← get).control.requests.fadeOut
  let (swarm, units) := s.swarm.advance elapsed fading s.units
  performAll swarm.draws
  return { s with swarm, units }

def frames [Trig α] : List Tick → Scene α → Play α σ Exit
  | [], _ => do
    request .stopNow
    return .stopped
  | t :: ticks, scene => do
    request t.requests
    if (← get).control.requests.stop then return .stopped
    match ← ensureCurrent with
    | .error e => return .contextLost e
    | .ok _ =>
      let scene ← scene.drawFrame t.elapsed
      match ← present with
      | .error e => return .presentFailed e
      | .ok _ => frames ticks scene

/-! ## a run -/

/-- A swarm is scattered and at once placed anew. -/
def populate (surface : Surface) (units : Units α) : Swarm α × Units α :=
  let (swarm, units) := Swarm.random surface units
  swarm.reset units

structure Renderer (α : Type) where
  settings : Settings
  window : WindowId
  decoder : ImageDecoder
  assets : AssetStore
  units : Units α

namespace Renderer

def screenSetup (surface : Surface) : List (DrawCall α) :=
  [.setViewport surface.width surface.height,
   .setProjection (.screen surface.width surface.height)]

def prepare (r : Renderer α) : Play α σ (Except DisplayError (Scene α)) := do
  match ← acquire r.window with
  | .error e => return .error e
  | .ok _ =>
    performDraw (.setClearColor .opaqueBlack)
    let texture ← loadSprite r.decoder r.assets r.settings.sprite
    performAll (screenSetup r.settings.surface)
    let (swarm, units) := populate r.settings.surface r.units
    return .ok ⟨texture, swarm, units⟩

def work [Trig α] (r : Renderer α) (ticks : List Tick) : Play α σ Exit := do
  reach .preparing
  match ← r.prepare with
  | .error e => return .initFailed e
  | .ok scene =>
    reach .running
    frames ticks scene

/-- A run that no crash cuts short.  At its very end the lease is given up, and with it what it may
still hold. -/
def live [Trig α] (r : Renderer α) (ticks : List Tick) : Play α σ Exit := do
  let exit ← r.work ticks
  reach .draining
  release
  reach .terminated
  log .info ("Render thread finished: " ++ exit.text)
  release
  return exit

def run [Trig α] (r : Renderer α) (ticks : List Tick) : Play α σ Exit :=
  tryCatch (r.live ticks) fun cause => do
    reach .terminated
    release
    throw cause

end Renderer
end FireflyOverlay
