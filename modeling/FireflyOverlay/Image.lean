import FireflyOverlay.Color

/-!
# Images

An `Image` holds one pixel for each place of a grid, row after row.

* `Image.get?`, `Image.modify`   the pixel at a column and a row, or none outside the grid;
* `Image.fill`                   one pixel everywhere;
* `Image.ofBytes?`               tightly packed bytes, four for each pixel; further bytes are
                                 ignored, too few are refused;
* `Image.brightness`             the light of all pixels together;
* `ImageDecoder`                 reads images out of bytes.
-/

namespace FireflyOverlay

structure Image where
  width : Nat
  height : Nat
  pixels : Array Pixel
  size_eq : pixels.size = width * height
deriving DecidableEq

namespace Image

def index (m : Image) (x y : Nat) : Nat := y * m.width + x

def get? (m : Image) (x y : Nat) : Option Pixel :=
  if x < m.width then m.pixels[m.index x y]? else none

/-- Changes one pixel.  A place outside the grid changes nothing; draws that reach for one crash on
a `CheckedCanvas`. -/
def modify (m : Image) (x y : Nat) (f : Pixel → Pixel) : Image :=
  if x < m.width then
    { m with pixels := m.pixels.modify (m.index x y) f, size_eq := by simp [m.size_eq] }
  else m

def replicate (width height : Nat) (p : Pixel) : Image :=
  ⟨width, height, Array.replicate (width * height) p, by simp⟩

def black (width height : Nat) : Image := replicate width height Pixel.black

def fill (m : Image) (p : Pixel) : Image := replicate m.width m.height p

def ofFn (width height : Nat) (f : Nat → Nat → Pixel) : Image :=
  ⟨width, height, Array.ofFn fun i : Fin (width * height) => f (i % width) (i / width),
    by simp⟩

/-- The pixel in the four bytes from the `i`-th group of four on. -/
def pixelAt (bytes : Array UInt8) (i : Nat) : Pixel :=
  ⟨bytes.getD (4 * i) 0, bytes.getD (4 * i + 1) 0, bytes.getD (4 * i + 2) 0,
    bytes.getD (4 * i + 3) 0⟩

def ofBytes? (width height : Nat) (bytes : Array UInt8) : Option Image :=
  if 4 * width * height ≤ bytes.size then
    some ⟨width, height, Array.ofFn fun i : Fin (width * height) => pixelAt bytes i, by simp⟩
  else none

/-- The rows from the top; an image without columns has none. -/
def rows (m : Image) : List (List Pixel) :=
  if m.width = 0 then []
  else (List.range m.height).map fun y =>
    (m.pixels.extract (y * m.width) ((y + 1) * m.width)).toList

def toBytes (m : Image) : Array UInt8 := m.pixels.flatMap fun p => p.toList.toArray

def brightness (m : Image) : Nat := m.pixels.foldl (fun sum p => sum + p.light) 0

@[simp] theorem width_modify (m : Image) (x y : Nat) (f : Pixel → Pixel) :
    (m.modify x y f).width = m.width := by
  unfold modify; split <;> rfl

@[simp] theorem height_modify (m : Image) (x y : Nat) (f : Pixel → Pixel) :
    (m.modify x y f).height = m.height := by
  unfold modify; split <;> rfl

@[simp] theorem width_fill (m : Image) (p : Pixel) : (m.fill p).width = m.width := rfl

@[simp] theorem height_fill (m : Image) (p : Pixel) : (m.fill p).height = m.height := rfl

/-- The grids are the same; the pixels may differ. -/
def SameSize (m k : Image) : Prop := m.width = k.width ∧ m.height = k.height

theorem SameSize.refl (m : Image) : m.SameSize m := ⟨rfl, rfl⟩
theorem SameSize.symm {m k : Image} (h : m.SameSize k) : k.SameSize m := ⟨h.1.symm, h.2.symm⟩
theorem SameSize.trans {m k n : Image} (h : m.SameSize k) (h' : k.SameSize n) : m.SameSize n :=
  ⟨h.1.trans h'.1, h.2.trans h'.2⟩

theorem sameSize_foldl {β : Type} {f : Image → β → Image} (hf : ∀ m b, (f m b).SameSize m)
    (bs : List β) (m : Image) : (bs.foldl f m).SameSize m := by
  induction bs generalizing m with
  | nil => exact .refl m
  | cons b bs ih => exact (ih (f m b)).trans (hf m b)

end Image

/-- Reads an image that is not empty, or none, in whatever formats it knows. -/
structure ImageDecoder where
  decode? : Array UInt8 → Option Image
  not_empty : ∀ bytes m, decode? bytes = some m → 0 < m.width ∧ 0 < m.height
end FireflyOverlay
