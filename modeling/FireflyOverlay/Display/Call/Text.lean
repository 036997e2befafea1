import FireflyOverlay.Display.Call
import FireflyOverlay.Text.Hex

/-!
# Calls as text

* `BlendFactor.name`, `TextureFilter.name`, `Winding.name`   the words for what calls carry, and
  `ofName?` for the way back;
* `PixelFormat.text`, `BlendFunc.text`   records with the names of their fields;
* `Color.text`, `Mat4.text`   the numbers in order; `number` writes one of them;
* `Call.text`   the name of a call with what it carries.  Drawables and the corners of the quad are
                left out: there is one of each.
-/

namespace FireflyOverlay

/-! ## words -/

namespace BlendFactor

def all : List BlendFactor := [.zero, .one, .srcAlpha, .oneMinusSrcAlpha]

def name : BlendFactor → String
  | .zero => "Zero"
  | .one => "One"
  | .srcAlpha => "SrcAlpha"
  | .oneMinusSrcAlpha => "OneMinusSrcAlpha"

def ofName? (s : String) : Option BlendFactor := all.find? (·.name = s)

theorem ofName?_name (f : BlendFactor) : ofName? f.name = some f := by cases f <;> decide

end BlendFactor

namespace TextureFilter

def all : List TextureFilter := [.nearest, .linear]

def name : TextureFilter → String
  | .nearest => "Nearest"
  | .linear => "Linear"

def ofName? (s : String) : Option TextureFilter := all.find? (·.name = s)

theorem ofName?_name (f : TextureFilter) : ofName? f.name = some f := by cases f <;> decide

end TextureFilter

namespace Winding

def all : List Winding := [.clockwise, .counterClockwise]

def name : Winding → String
  | .clockwise => "Clockwise"
  | .counterClockwise => "CounterClockwise"

def ofName? (s : String) : Option Winding := all.find? (·.name = s)

theorem ofName?_name (w : Winding) : ofName? w.name = some w := by cases w <;> decide

end Winding

/-! ## records -/

def PixelFormat.text (f : PixelFormat) : String :=
  s!"PixelFormat \x7b red_bits: {f.red}, green_bits: {f.green}, blue_bits: {f.blue}, " ++
    s!"alpha_bits: {f.alpha}, depth_bits: {f.depth}, stencil_bits: {f.stencil} \x7d"

def BlendFunc.text (f : BlendFunc) : String :=
  s!"BlendFunc \x7b src: {f.src.name}, dst: {f.dst.name} \x7d"

def commaList (items : List String) : String := ",".intercalate items

variable {α : Type}

def Color.text (number : α → String) (c : Color α) : String := commaList (c.toList.map number)

def Mat4.text (number : α → String) (m : Mat4 α) : String := commaList (m.entries.map number)

/-! ## calls -/

def DrawCall.arguments (number : α → String) : DrawCall α → List String
  | .setClearColor c | .setColor c => [c.text number]
  | .setViewport width height => [toString width, toString height]
  | .setProjection m | .setModelView m => [m.text number]
  | .setTexturing enabled => [toString enabled]
  | .setBlend none => ["none"]
  | .setBlend (some f) => [f.src.name, f.dst.name]
  | .bindTexture t => [toString t]
  | .setTextureFilters min mag => [min.name, mag.name]
  | .uploadTexture width height rgba => [toString width, toString height, Hex.ofBytes rgba.toList]
  | .setFrontFace w => [w.name]
  | .drawElements indices => indices.map toString
  | .clear | .generateTexture | .enableQuadArrays | .disableQuadArrays => []

/-- Binding and unbinding are the same call with and without objects. -/
def Call.textName : Call α → String
  | .makeCurrent _ _ => "make_current"
  | c => c.name

def Call.arguments (number : α → String) : Call α → List String
  | .defaultDisplay | .currentContext | .currentSurface | .lastError => []
  | .openDisplay d => [toString d]
  | .chooseConfig d f => [toString d, "[" ++ commaList (f.toList.map toString) ++ "]"]
  | .createContext d c => [toString d, toString c]
  | .createSurface d c _ => [toString d, toString c]
  | .makeCurrent d none => [toString d, "none"]
  | .makeCurrent d (some b) => [toString d, s!"surface={b.surface}", s!"context={b.context}"]
  | .swapBuffers d s => [toString d, toString s]
  | .destroyContext d c => [toString d, toString c]
  | .destroySurface d s => [toString d, toString s]
  | .draw c => c.arguments number

def Call.text (number : α → String) (c : Call α) : String :=
  c.textName ++ "(" ++ commaList (c.arguments number) ++ ")"

end FireflyOverlay
