import FireflyOverlay.Png.Chunk

/-!
# Image headers

* `ColorKind`   what the samples of a pixel mean;
* `Header`      the size of an image, the depth of a sample, and the order of the rows;
* `Header.ofBytes?`   a header is refused if it is empty in a direction, if its kind has no samples
                      of its depth, or if it names an unknown method.
-/

namespace FireflyOverlay
namespace Png

inductive ColorKind where
  | gray
  | rgb
  | indexed
  | grayAlpha
  | rgba
deriving DecidableEq, Repr

namespace ColorKind

def ofNat? : Nat → Option ColorKind
  | 0 => some .gray
  | 2 => some .rgb
  | 3 => some .indexed
  | 4 => some .grayAlpha
  | 6 => some .rgba
  | _ => none

/-- The number of samples of a pixel. -/
def samples : ColorKind → Nat
  | .gray | .indexed => 1
  | .grayAlpha => 2
  | .rgb => 3
  | .rgba => 4

/-- The bits that a sample may have. -/
def depths : ColorKind → List Nat
  | .gray => [1, 2, 4, 8, 16]
  | .indexed => [1, 2, 4, 8]
  | .rgb | .grayAlpha | .rgba => [8, 16]

end ColorKind

structure Header where
  width : Nat
  height : Nat
  depth : Nat
  kind : ColorKind
  interlaced : Bool
deriving DecidableEq, Repr

namespace Header

def isValid (h : Header) : Bool :=
  decide (0 < h.width) && decide (0 < h.height) && h.kind.depths.contains h.depth

def ofBytes? (bytes : List UInt8) : Option Header := do
  let width := number (bytes.take 4)
  let height := number ((bytes.drop 4).take 4)
  match bytes.drop 8 with
  | [depth, kind, compression, filter, interlacing] =>
    let kind ← ColorKind.ofNat? kind.toNat
    let h : Header := ⟨width, height, depth.toNat, kind, interlacing == 1⟩
    if h.isValid && compression == 0 && filter == 0 && interlacing ≤ 1 then return h else none
  | _ => none

theorem isValid_of_ofBytes? {bytes : List UInt8} {h : Header} (hb : ofBytes? bytes = some h) :
    h.isValid := by
  rw [ofBytes?] at hb
  dsimp only at hb
  split at hb
  · simp only [Option.bind_eq_bind, Option.bind_eq_some_iff] at hb
    obtain ⟨_, _, hb⟩ := hb
    split at hb
    · next hv =>
      simp only [Bool.and_eq_true] at hv
      simp only [Option.pure_def, Option.some.injEq] at hb
      rw [← hb]
      exact hv.1.1.1
    · simp at hb
  · simp at hb

def pixelBits (h : Header) : Nat := h.kind.samples * h.depth

/-- The distance of a byte to the byte before it that belongs to the pixel on the left. -/
def stride (h : Header) : Nat := max 1 (h.pixelBits / 8)

/-- The bytes of a row of some pixels. -/
def rowBytes (h : Header) (columns : Nat) : Nat := (columns * h.pixelBits + 7) / 8

end Header
end Png
end FireflyOverlay
