import FireflyOverlay.Scalar

/-!
# Surfaces and settings

* `Surface`    the size of a drawable, never empty;
* `Settings`   what a renderer needs besides a display, a drawable and assets;
* `SettingsError`   why a surface or a sprite name is refused, with its text.
-/

namespace FireflyOverlay

inductive SettingsError where
  | emptySurface (width height : Nat)
  | emptySpriteName
deriving DecidableEq, Repr

def SettingsError.message : SettingsError → String
  | .emptySurface width height =>
    s!"The surface must have a non-zero size, got {width}x{height}"
  | .emptySpriteName => "The sprite asset name must not be empty"

structure Surface where
  width : Nat
  height : Nat
  width_pos : 0 < width
  height_pos : 0 < height
deriving DecidableEq

def Surface.ofSize (width height : Nat) : Except SettingsError Surface :=
  if h : 0 < width ∧ 0 < height then .ok ⟨width, height, h.1, h.2⟩
  else .error (.emptySurface width height)

/-- The sprite that is used when no other is named. -/
def defaultSprite : String := "star.png"

structure Settings where
  surface : Surface
  sprite : String
  sprite_ne : sprite ≠ ""

def Settings.ofSurface (surface : Surface) : Settings := ⟨surface, defaultSprite, by decide⟩

def Settings.withSprite (s : Settings) (name : String) : Except SettingsError Settings :=
  if h : name ≠ "" then .ok { s with sprite := name, sprite_ne := h } else .error .emptySpriteName

end FireflyOverlay
