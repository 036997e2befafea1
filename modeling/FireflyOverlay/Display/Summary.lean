import FireflyOverlay.Display.Call.Text
import FireflyOverlay.Session

/-!
# Summaries of calls

What a list of recorded calls shows of a call: handles are left out, of an upload and of an index
list only the size is kept, and a new texture comes with its name.

* `CallSummary.ofCall?`        the summary of a call with its reply; questions have none;
* `CallSummary.ofTrace`        the summaries of a trace, in order;
* `CallSummary.text`             a summary as text; `number` writes a number;
* `CallSummary.occurrences`    how often a call was made.  Numbers are compared as numbers: one that
                               is not a number differs from itself.
-/

namespace FireflyOverlay

inductive CallSummary (α : Type) where
  | defaultDisplay
  | openDisplay
  | chooseConfig (format : PixelFormat)
  | createContext
  | createSurface
  | makeCurrent (bound : Bool)
  | swapBuffers
  | destroyContext
  | destroySurface
  | setClearColor (color : Color α)
  | clear
  | setViewport (width height : Nat)
  | setProjection (matrix : Mat4 α)
  | setModelView (matrix : Mat4 α)
  | setTexturing (enabled : Bool)
  | setBlend (blend : Option BlendFunc)
  | generateTexture (texture : TextureId)
  | bindTexture (texture : TextureId)
  | setTextureFilters (min mag : TextureFilter)
  | uploadTexture (width height bytes : Nat)
  | setFrontFace (winding : Winding)
  | enableQuadArrays
  | disableQuadArrays
  | setColor (color : Color α)
  | drawElements (count : Nat)
deriving BEq

namespace CallSummary

variable {α : Type}

def ofDraw : (c : DrawCall α) → c.Reply → CallSummary α
  | .setClearColor color, _ => .setClearColor color
  | .clear, _ => .clear
  | .setViewport width height, _ => .setViewport width height
  | .setProjection matrix, _ => .setProjection matrix
  | .setModelView matrix, _ => .setModelView matrix
  | .setTexturing enabled, _ => .setTexturing enabled
  | .setBlend blend, _ => .setBlend blend
  | .generateTexture, texture => .generateTexture texture
  | .bindTexture texture, _ => .bindTexture texture
  | .setTextureFilters min mag, _ => .setTextureFilters min mag
  | .uploadTexture width height rgba, _ => .uploadTexture width height rgba.size
  | .setFrontFace winding, _ => .setFrontFace winding
  | .enableQuadArrays, _ => .enableQuadArrays
  | .disableQuadArrays, _ => .disableQuadArrays
  | .setColor color, _ => .setColor color
  | .drawElements indices, _ => .drawElements indices.length

def ofCall? : (c : Call α) → c.Reply → Option (CallSummary α)
  | .defaultDisplay, _ => some .defaultDisplay
  | .openDisplay _, _ => some .openDisplay
  | .chooseConfig _ format, _ => some (.chooseConfig format)
  | .createContext _ _, _ => some .createContext
  | .createSurface _ _ _, _ => some .createSurface
  | .makeCurrent _ binding, _ => some (.makeCurrent binding.isSome)
  | .swapBuffers _ _, _ => some .swapBuffers
  | .destroyContext _ _, _ => some .destroyContext
  | .destroySurface _ _, _ => some .destroySurface
  | .currentContext, _ | .currentSurface, _ | .lastError, _ => none
  | .draw c, reply => some (ofDraw c reply)

def ofEvent? : Event α → Option (CallSummary α)
  | .call c (some reply) => ofCall? c reply
  | _ => none

def ofTrace (trace : Array (Event α)) : List (CallSummary α) := trace.toList.filterMap ofEvent?

def isContextCall : CallSummary α → Bool
  | .defaultDisplay | .openDisplay | .chooseConfig _ | .createContext | .createSurface
  | .makeCurrent _ | .swapBuffers | .destroyContext | .destroySurface => true
  | _ => false

def occurrences [BEq α] (calls : List (CallSummary α)) (c : CallSummary α) : Nat :=
  (calls.filter (· == c)).length

/-! ## text -/

def text (number : α → String) : CallSummary α → String
  | .defaultDisplay => "DefaultDisplay"
  | .openDisplay => "Initialize"
  | .chooseConfig f => s!"ChooseConfig({f.text})"
  | .createContext => "CreateContext"
  | .createSurface => "CreateWindowSurface"
  | .makeCurrent bound => s!"MakeCurrent({bound})"
  | .swapBuffers => "SwapBuffers"
  | .destroyContext => "DestroyContext"
  | .destroySurface => "DestroySurface"
  | .setClearColor c => "SetClearColor(" ++ c.text number ++ ")"
  | .clear => "Clear"
  | .setViewport width height => s!"SetViewport({width}, {height})"
  | .setProjection m => "SetProjection(" ++ m.text number ++ ")"
  | .setModelView m => "SetModelView(" ++ m.text number ++ ")"
  | .setTexturing enabled => s!"SetTexturing({enabled})"
  | .setBlend none => "SetBlend(None)"
  | .setBlend (some f) => s!"SetBlend(Some({f.text}))"
  | .generateTexture t => s!"GenerateTexture(TextureId({t}))"
  | .bindTexture t => s!"BindTexture(TextureId({t}))"
  | .setTextureFilters min mag => s!"SetTextureFilters({min.name}, {mag.name})"
  | .uploadTexture width height bytes =>
    s!"UploadTexture \x7b width: {width}, height: {height}, bytes: {bytes} \x7d"
  | .setFrontFace w => s!"SetFrontFace({w.name})"
  | .enableQuadArrays => "EnableQuadArrays"
  | .disableQuadArrays => "DisableQuadArrays"
  | .setColor c => "SetColor(" ++ c.text number ++ ")"
  | .drawElements count => s!"DrawElements({count})"

end CallSummary
end FireflyOverlay
