import FireflyOverlay.Canvas.Context
import FireflyOverlay.Display

/-!
# The canvas: a display in memory

A `Canvas` has one display and one config.  Surfaces are drawn into a back image of their own;
a swap copies it to the front of the window that the surface belongs to.  Contexts and surfaces
take their numbers from one counter.

* `Canvas.step`      every call;
* `Canvas.drawWith`  a draw call: it changes the state of the current context, or paints on the
                     current surface, and touches nothing else; without a current context it is
                     ignored.
-/

namespace FireflyOverlay

/-- The front of a drawable. -/
structure Window where
  front : Image
  frames : Nat
deriving DecidableEq

def Window.ofSize (width height : Nat) : Window := ⟨.black width height, 0⟩

def Window.text (w : Window) : String :=
  s!"SoftwareWindow \x7b width: {w.front.width}, height: {w.front.height}, " ++
    s!"frames_presented: {w.frames} \x7d"

structure CanvasSurface where
  window : WindowId
  back : Image
deriving DecidableEq

structure Canvas (α : Type) where
  opened : Bool
  /-- the number that was given out last; it has 32 bits as long as less than `2 ^ 32` are given
  out, and nothing is said here of a counter that runs over -/
  lastHandle : Nat
  contexts : Table (ContextState α)
  surfaces : Table CanvasSurface
  windows : List Window
  current : Option Binding
  lastError : ErrorCode

namespace Canvas

variable {α : Type} [Scalar α]

def displayId : DisplayId := 1
def configId : ConfigId := 1

/-- Channels of 8 bits with stored opacity, and nothing else. -/
def format : PixelFormat := ⟨8, 8, 8, 8, 0, 0⟩

def initial : Canvas α := ⟨false, 0, [], [], [], none, .success⟩

def addWindow (s : Canvas α) (width height : Nat) : Canvas α :=
  { s with windows := s.windows ++ [.ofSize width height] }

/-! ## handles -/

variable {β : Type}

/-- Answers the sentinel and keeps the code. -/
def refuse (s : Canvas α) (sentinel : β) (code : ErrorCode) : Reaction β × Canvas α :=
  (.answer sentinel, { s with lastError := code })

/-- Why a display handle cannot be used. -/
def displayFault? (s : Canvas α) (display : DisplayId) : Option ErrorCode :=
  if display ≠ displayId then some .badDisplay
  else if s.opened then none else some .notInitialized

/-- Goes on only with the open display. -/
def withDisplay (s : Canvas α) (display : DisplayId) (sentinel : β)
    (succeed : Reaction β × Canvas α) : Reaction β × Canvas α :=
  match s.displayFault? display with
  | some code => s.refuse sentinel code
  | none => succeed

def chooseConfig (s : Canvas α) (display : DisplayId) (wanted : PixelFormat) :
    Reaction (Except ErrorCode (Option ConfigId)) × Canvas α :=
  match s.displayFault? display with
  | some code => s.refuse (.error code) code
  | none =>
    let fits := (wanted.toList.zip format.toList).all fun (w, f) => decide (w ≤ f)
    (.answer (.ok (if fits then some configId else none)), s)

def createContext (s : Canvas α) (display : DisplayId) (config : ConfigId) :
    Reaction (Option ContextId) × Canvas α :=
  s.withDisplay display none <|
    if config ≠ configId then s.refuse none .badConfig
    else
      let n := s.lastHandle + 1
      (.answer (some n), { s with lastHandle := n, contexts := s.contexts.insert n .initial })

def createSurface (s : Canvas α) (display : DisplayId) (config : ConfigId) (window : WindowId) :
    Reaction (Option SurfaceId) × Canvas α :=
  s.withDisplay display none <|
    if config ≠ configId then s.refuse none .badConfig
    else match s.windows[window]? with
      | none => s.refuse none .badNativeWindow
      | some w =>
        if w.front.width = 0 ∨ w.front.height = 0 then s.refuse none .badNativeWindow
        else
          let n := s.lastHandle + 1
          let surface : CanvasSurface := ⟨window, .black w.front.width w.front.height⟩
          (.answer (some n), { s with lastHandle := n, surfaces := s.surfaces.insert n surface })

/-- The first surface that a context is bound to gives its viewport. -/
def bind (s : Canvas α) (b : Binding) : Reaction Bool × Canvas α :=
  if !s.contexts.contains b.context then s.refuse false .badContext
  else match s.surfaces.find? b.surface with
    | none => s.refuse false .badSurface
    | some surface =>
      let contexts := s.contexts.modify b.context
        (·.defaultViewport surface.back.width surface.back.height)
      (.answer true, { s with contexts, current := some b })

def makeCurrent (s : Canvas α) (display : DisplayId) (binding : Option Binding) :
    Reaction Bool × Canvas α :=
  s.withDisplay display false <|
    match binding with
    | none => (.answer true, { s with current := none })
    | some b => s.bind b

def swap (s : Canvas α) (display : DisplayId) (surface : SurfaceId) :
    Reaction Bool × Canvas α :=
  s.withDisplay display false <|
    match s.surfaces.find? surface with
    | none => s.refuse false .badSurface
    | some t =>
      (.answer true,
        { s with windows := s.windows.modify t.window fun w => ⟨t.back, w.frames + 1⟩ })

def destroyContext (s : Canvas α) (display : DisplayId) (context : ContextId) :
    Reaction Bool × Canvas α :=
  s.withDisplay display false <|
    if !s.contexts.contains context then s.refuse false .badContext
    else
      let current := s.current.filter (·.context ≠ context)
      (.answer true, { s with contexts := s.contexts.erase context, current })

def destroySurface (s : Canvas α) (display : DisplayId) (surface : SurfaceId) :
    Reaction Bool × Canvas α :=
  s.withDisplay display false <|
    if !s.surfaces.contains surface then s.refuse false .badSurface
    else
      let current := s.current.filter (·.surface ≠ surface)
      (.answer true, { s with surfaces := s.surfaces.erase surface, current })

/-! ## drawing -/

/-- What is logged for a draw call that finds no current context. -/
def ignored (c : DrawCall α) : List LogRecord :=
  match c with
  | .clear | .setFrontFace _ => []
  | c => [⟨.trace, s!"Ignoring {c.name} without a current context"⟩]

/-- The effect of a draw call on what is bound. -/
def drawOn [Root α] (s : Canvas α) (b : Binding) (state : ContextState α) (c : DrawCall α) :
    Canvas α :=
  { s with
    contexts := s.contexts.modify b.context (·.apply c)
    surfaces := s.surfaces.modify b.surface fun t => { t with back := state.paint c t.back } }

/-- Of a draw call, the name of the texture that it makes; 0 is the name of no texture. -/
def replyOf (state : Option (ContextState α)) : (c : DrawCall α) → c.Reply
  | .generateTexture => match state with
    | some state => state.lastTexture + 1
    | none => (0 : Nat)
  | .setClearColor _ | .clear | .setViewport _ _ | .setProjection _ | .setModelView _
  | .setTexturing _ | .setBlend _ | .bindTexture _ | .setTextureFilters _ _
  | .uploadTexture _ _ _ | .setFrontFace _ | .enableQuadArrays | .disableQuadArrays
  | .setColor _ | .drawElements _ => ()

/-- The context that is current, with its state. -/
def currentState? (s : Canvas α) : Option (Binding × ContextState α) := do
  let b ← s.current
  return (b, ← s.contexts.find? b.context)

def draw [Root α] (s : Canvas α) (c : DrawCall α) : Reaction c.Reply × Canvas α :=
  match s.currentState? with
  | none => (.withLogs (replyOf (α := α) none c) (ignored c), s)
  | some (b, state) => (.withLogs (replyOf state c) (state.notes c), s.drawOn b state c)

/-! ## every call -/

def step [Root α] : (c : Call α) → Canvas α → Reaction c.Reply × Canvas α
  | .defaultDisplay, s => (.answer (some displayId), s)
  | .openDisplay display, s =>
    if display ≠ displayId then s.refuse none .badDisplay
    else (.answer (some (1, 4)), { s with opened := true })
  | .chooseConfig display wanted, s => s.chooseConfig display wanted
  | .createContext display config, s => s.createContext display config
  | .createSurface display config window, s => s.createSurface display config window
  | .makeCurrent display binding, s => s.makeCurrent display binding
  | .currentContext, s => (.answer (s.current.map (·.context)), s)
  | .currentSurface, s => (.answer (s.current.map (·.surface)), s)
  | .swapBuffers display surface, s => s.swap display surface
  | .destroyContext display context, s => s.destroyContext display context
  | .destroySurface display surface, s => s.destroySurface display surface
  | .lastError, s => (.answer s.lastError, { s with lastError := .success })
  | .draw c, s => s.draw c

instance [Root α] : Display α (Canvas α) where
  step := step
  configText _ config := s!"SoftwareConfig({config})"

end Canvas
end FireflyOverlay
