import FireflyOverlay.Color
import FireflyOverlay.Matrix
import FireflyOverlay.Display.ErrorCode

/-!
# The calls of a display

What a renderer may ask of a display, as data.

* `DrawCall`   changes of the drawing state of the current context, and drawing with it;
* `Call`       draw calls and the calls that acquire, bind, present and release;
* `Call.Reply` the type of the answer to a call: a failure is a sentinel (`none`, `false`), its
  code is asked for with `lastError`; only the choice of a config answers its code itself.

Handles are numbers that the display gives out.
-/

namespace FireflyOverlay

abbrev DisplayId := Nat
abbrev ConfigId := Nat
abbrev ContextId := Nat
abbrev SurfaceId := Nat
abbrev TextureId := Nat

/-- A drawable, as the display knows it. -/
abbrev WindowId := Nat

/-! ## what calls carry -/

/-- The least channel sizes that a config must have. -/
structure PixelFormat where
  red : Nat
  green : Nat
  blue : Nat
  alpha : Nat
  depth : Nat
  stencil : Nat
deriving DecidableEq, Repr

/-- Three channels of 8 bits.  An overlay is added onto what is there, so it needs no stored
opacity. -/
def PixelFormat.overlay : PixelFormat := ⟨8, 8, 8, 0, 0, 0⟩

def PixelFormat.toList (f : PixelFormat) : List Nat :=
  [f.red, f.green, f.blue, f.alpha, f.depth, f.stencil]

inductive BlendFactor where
  | zero
  | one
  | srcAlpha
  | oneMinusSrcAlpha
deriving DecidableEq, Repr

/-- Source times its factor plus destination times its factor. -/
structure BlendFunc where
  src : BlendFactor
  dst : BlendFactor
deriving DecidableEq, Repr

/-- The source, weighted by its opacity, is added onto the destination. -/
def BlendFunc.additive : BlendFunc := ⟨.srcAlpha, .one⟩

inductive TextureFilter where
  | nearest
  | linear
deriving DecidableEq, Repr

inductive Winding where
  | clockwise
  | counterClockwise
deriving DecidableEq, Repr

/-- A surface and a context that are current together. -/
structure Binding where
  surface : SurfaceId
  context : ContextId
deriving DecidableEq, Repr

/-! ## calls -/

inductive DrawCall (α : Type) where
  | setClearColor (color : Color α)
  | clear
  | setViewport (width height : Nat)
  | setProjection (matrix : Mat4 α)
  | setModelView (matrix : Mat4 α)
  | setTexturing (enabled : Bool)
  | setBlend (blend : Option BlendFunc)
  | generateTexture
  | bindTexture (texture : TextureId)
  | setTextureFilters (min mag : TextureFilter)
  | uploadTexture (width height : Nat) (rgba : Array UInt8)
  | setFrontFace (winding : Winding)
  | enableQuadArrays
  | disableQuadArrays
  | setColor (color : Color α)
  | drawElements (indices : List Nat)

inductive Call (α : Type) where
  | defaultDisplay
  | openDisplay (display : DisplayId)
  | chooseConfig (display : DisplayId) (format : PixelFormat)
  | createContext (display : DisplayId) (config : ConfigId)
  | createSurface (display : DisplayId) (config : ConfigId) (window : WindowId)
  | makeCurrent (display : DisplayId) (binding : Option Binding)
  | currentContext
  | currentSurface
  | swapBuffers (display : DisplayId) (surface : SurfaceId)
  | destroyContext (display : DisplayId) (context : ContextId)
  | destroySurface (display : DisplayId) (surface : SurfaceId)
  | lastError
  | draw (call : DrawCall α)

variable {α : Type}

/-- A new texture is named; every other draw call answers nothing. -/
@[reducible] def DrawCall.Reply : DrawCall α → Type
  | .generateTexture => TextureId
  | _ => Unit

@[reducible] def Call.Reply : Call α → Type
  | .defaultDisplay => Option DisplayId
  | .openDisplay _ => Option (Nat × Nat)
  | .chooseConfig _ _ => Except ErrorCode (Option ConfigId)
  | .createContext _ _ => Option ContextId
  | .createSurface _ _ _ => Option SurfaceId
  | .makeCurrent _ _ => Bool
  | .currentContext => Option ContextId
  | .currentSurface => Option SurfaceId
  | .swapBuffers _ _ => Bool
  | .destroyContext _ _ => Bool
  | .destroySurface _ _ => Bool
  | .lastError => ErrorCode
  | .draw call => call.Reply

/-! ## names -/

def DrawCall.name : DrawCall α → String
  | .setClearColor _ => "set_clear_color"
  | .clear => "clear"
  | .setViewport _ _ => "set_viewport"
  | .setProjection _ => "set_projection"
  | .setModelView _ => "set_model_view"
  | .setTexturing _ => "set_texturing"
  | .setBlend _ => "set_blend"
  | .generateTexture => "generate_texture"
  | .bindTexture _ => "bind_texture"
  | .setTextureFilters _ _ => "set_texture_filters"
  | .uploadTexture _ _ _ => "upload_texture"
  | .setFrontFace _ => "set_front_face"
  | .enableQuadArrays => "enable_quad_arrays"
  | .disableQuadArrays => "disable_quad_arrays"
  | .setColor _ => "set_color"
  | .drawElements _ => "draw_elements"

def Call.name : Call α → String
  | .defaultDisplay => "default_display"
  | .openDisplay _ => "initialize"
  | .chooseConfig _ _ => "choose_config"
  | .createContext _ _ => "create_context"
  | .createSurface _ _ _ => "create_window_surface"
  | .makeCurrent _ (some _) => "make_current"
  | .makeCurrent _ none => "unbind"
  | .currentContext => "current_context"
  | .currentSurface => "current_draw_surface"
  | .swapBuffers _ _ => "swap_buffers"
  | .destroyContext _ _ => "destroy_context"
  | .destroySurface _ _ => "destroy_surface"
  | .lastError => "last_error"
  | .draw call => call.name

/-! ## kinds -/

/-- Questions about the state of the display; they change nothing that is drawn or bound. -/
def Call.isQuery : Call α → Bool
  | .currentContext | .currentSurface | .lastError => true
  | _ => false

def Call.isDraw : Call α → Bool
  | .draw _ => true
  | _ => false

end FireflyOverlay
