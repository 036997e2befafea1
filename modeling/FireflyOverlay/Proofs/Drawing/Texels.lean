import FireflyOverlay.Canvas.Strict
import FireflyOverlay.Proofs.Scalar.Floor

/-!
# Texels that are read

An index is cut to those of the image before its texel is read, so sampling stays inside of an image
that has any texel, wherever the place is.

* `Image.cut`           an index cut to those of `n` texels;
* `Image.texel_eq`      a texel is the pixel at its cut indices;
* `Image.indicesRead`   the columns, or the rows, that are read for a coordinate;
* `Image.sample_congr`  a sampled color depends on the pixels at these places alone.
-/

namespace FireflyOverlay
namespace Image

open Scalar

/-! ## cut indices -/

/-- The index next to `i` among the `n` from 0 on. -/
def cut (n : Nat) (i : Int) : Int := max 0 (min i (n - 1))

theorem natCast_nearestIndex (i : Int) (n : Nat) : (nearestIndex i n : Int) = cut n i :=
  Int.toNat_of_nonneg (le_max_left ..)

theorem nearestIndex_lt {n : Nat} (h : 0 < n) (i : Int) : nearestIndex i n < n := by
  unfold nearestIndex
  omega

/-- Cutting an index to 64 bits first does not change which of the `n` it is, nor does going on by
one from there. -/
theorem cut_cut64 {n : Nat} (hn : n ≤ 2 ^ 63) (i : Int) {d : Int} (h : 0 ≤ d) (h' : d ≤ 1) :
    cut n (Single.cut64 i + d) = cut n (i + d) := by
  unfold cut Single.cut64
  omega

/-- Every place inside of an image has a pixel. -/
theorem exists_get? (m : Image) {x y : Nat} (hx : x < m.width) (hy : y < m.height) :
    ∃ p, m.get? x y = some p := by
  have hindex : m.index x y < m.pixels.size := by
    rw [m.size_eq, Nat.mul_comm]
    calc y * m.width + x < y * m.width + m.width := Nat.add_lt_add_left hx _
      _ = (y + 1) * m.width := (Nat.succ_mul y m.width).symm
      _ ≤ m.height * m.width := Nat.mul_le_mul_right _ hy
  exact ⟨m.pixels[m.index x y], by rw [get?, if_pos hx, Array.getElem?_eq_getElem hindex]⟩

variable {α : Type} [Scalar α]

/-- A texel is the pixel at the cut column and the cut row. -/
theorem texel_eq {m : Image} (hw : 0 < m.width) (hh : 0 < m.height) (x y : Int) :
    ∃ p, m.get? (nearestIndex x m.width) (nearestIndex y m.height) = some p ∧
      (m.texel x y : Color α) = .ofPixel p := by
  obtain ⟨p, hp⟩ := m.exists_get? (nearestIndex_lt hw x) (nearestIndex_lt hh y)
  exact ⟨p, hp, by rw [texel, hp]; rfl⟩

theorem texel_congr_index {m : Image} {x x' y y' : Int} (hx : cut m.width x = cut m.width x')
    (hy : cut m.height y = cut m.height y') : (m.texel x y : Color α) = m.texel x' y' := by
  have hcolumn : nearestIndex x m.width = nearestIndex x' m.width := congrArg Int.toNat hx
  have hrow : nearestIndex y m.height = nearestIndex y' m.height := congrArg Int.toNat hy
  rw [texel, texel, hcolumn, hrow]

/-! ## the places that are read -/

/-- A coordinate counted in texels, from the center of the first of `n` on. -/
def shifted (n : Nat) (u : α) : α := u * ofNat n - 1 / 2

theorem cornerIndex_eq (n : Nat) (u : α) :
    cornerIndex (u * ofNat n) = trunc (floor (shifted n u)) := rfl

/-- How far a coordinate is from the center of the texel before it; the coordinate counts texels. -/
def fraction (x : α) : α := x - 1 / 2 - floor (x - 1 / 2)

theorem sampleLinear_eq (m : Image) (x y : α) :
    m.sampleLinear x y = ((m.texel (cornerIndex x) (cornerIndex y)).mix
        (m.texel (cornerIndex x + 1) (cornerIndex y)) (fraction x)).mix
      ((m.texel (cornerIndex x) (cornerIndex y + 1)).mix
        (m.texel (cornerIndex x + 1) (cornerIndex y + 1)) (fraction x)) (fraction y) := rfl

/-- The columns, or the rows, of `n` that are read for a coordinate. -/
def indicesRead (filter : TextureFilter) (n : Nat) (u : α) : List Nat :=
  match filter with
  | .nearest => [nearestIndex (trunc (floor (u * ofNat n))) n]
  | .linear =>
    [nearestIndex (cornerIndex (u * ofNat n)) n, nearestIndex (cornerIndex (u * ofNat n) + 1) n]

def placesRead (m : Image) (filter : TextureFilter) (u v : α) : List (Nat × Nat) :=
  (indicesRead filter m.height v).flatMap fun y =>
    (indicesRead filter m.width u).map fun x => (x, y)

theorem lt_of_mem_indicesRead {filter : TextureFilter} {n : Nat} (hn : 0 < n) {u : α} {i : Nat}
    (h : i ∈ indicesRead filter n u) : i < n := by
  cases filter with
  | nearest =>
    obtain rfl := List.mem_singleton.mp h
    exact nearestIndex_lt hn _
  | linear =>
    simp only [indicesRead, List.mem_cons, List.not_mem_nil, or_false] at h
    rcases h with rfl | rfl <;> exact nearestIndex_lt hn _

theorem mem_placesRead {m : Image} {filter : TextureFilter} {u v : α} {p : Nat × Nat} :
    p ∈ m.placesRead filter u v ↔
      p.1 ∈ indicesRead filter m.width u ∧ p.2 ∈ indicesRead filter m.height v := by
  simp only [placesRead, List.mem_flatMap, List.mem_map]
  constructor
  · rintro ⟨y, hy, x, hx, rfl⟩
    exact ⟨hx, hy⟩
  · rintro ⟨hx, hy⟩
    exact ⟨p.2, hy, p.1, hx, rfl⟩

/-- **A sampled color depends on the pixels at the places read alone.** -/
theorem sample_congr {m k : Image} (hs : m.SameSize k) {filter : TextureFilter} {u v : α}
    (h : ∀ p ∈ m.placesRead filter u v, m.get? p.1 p.2 = k.get? p.1 p.2) :
    m.sample filter u v = k.sample filter u v := by
  have htexel : ∀ x y : Int, nearestIndex x m.width ∈ indicesRead filter m.width u →
      nearestIndex y m.height ∈ indicesRead filter m.height v →
      (m.texel x y : Color α) = k.texel x y := fun x y hx hy => by
    have hpixel : m.get? (nearestIndex x m.width) (nearestIndex y m.height)
        = k.get? (nearestIndex x m.width) (nearestIndex y m.height) :=
      h (nearestIndex x m.width, nearestIndex y m.height) (mem_placesRead.mpr ⟨hx, hy⟩)
    rw [texel, texel, hpixel, hs.1, hs.2]
  cases filter with
  | nearest =>
    have hsingle := htexel _ _ (List.mem_singleton_self _) (List.mem_singleton_self _)
    exact hsingle.trans (by rw [hs.1, hs.2]; rfl)
  | linear =>
    have hfirst : ∀ (n : Nat) (u : α),
        nearestIndex (cornerIndex (u * ofNat n)) n ∈ indicesRead .linear n u :=
      fun n u => List.mem_cons_self ..
    have hsecond : ∀ (n : Nat) (u : α),
        nearestIndex (cornerIndex (u * ofNat n) + 1) n ∈ indicesRead .linear n u :=
      fun n u => List.mem_cons_of_mem _ (List.mem_singleton_self _)
    show m.sampleLinear _ _ = k.sampleLinear _ _
    rw [sampleLinear_eq, sampleLinear_eq, htexel _ _ (hfirst ..) (hfirst ..),
      htexel _ _ (hsecond ..) (hfirst ..), htexel _ _ (hfirst ..) (hsecond ..),
      htexel _ _ (hsecond ..) (hsecond ..), hs.1, hs.2]

end Image
end FireflyOverlay
