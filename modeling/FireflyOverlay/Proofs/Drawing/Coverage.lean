import Mathlib.Tactic.Linarith
import Mathlib.Tactic.Ring
import FireflyOverlay.Proofs.Scalar.Exact
import FireflyOverlay.Triangle

/-!
# Triangles in exact arithmetic

A triangle with positive area is drawn on every pixel that it covers, as far as the clip reaches.

* `mem_span`           the columns or rows between the outermost corners;
* `Triangle.barycentric_x`, `Triangle.barycentric_y`   a place is the mean of the corners, weighted
                       by the areas over the edges.  Inside the weights are not negative, so a place
                       inside lies between the corners;
* `Triangle.mem_pixels`   the pixels that are drawn are those of the clip that are covered.
-/

namespace FireflyOverlay

namespace Triangle
open Exact

/-! ## columns and rows -/

theorem center_eq (i : Nat) : (center i : Rat) = i + 1 / 2 := rfl

theorem span_eq (p q r : Rat) (limit : Nat) :
    span p q r limit =
      let first : Int := max (min (min p q) r).floor 0
      let last : Int := min (max (max p q) r).ceil limit
      if first < last then
        List.range' (min first.toNat 0xffffffff)
          (min last.toNat 0xffffffff - min first.toNat 0xffffffff)
      else [] := by
  have hfirst : Scalar.greatest (Scalar.floor (Scalar.least (Scalar.least p q) r)) 0
      = ((max (min (min p q) r).floor 0 : Int) : Rat) := by
    rw [least_eq, least_eq, greatest_eq, Int.cast_max]
    rfl
  have hlast : Scalar.least (Scalar.ceil (Scalar.greatest (Scalar.greatest p q) r))
      (Scalar.ofNat limit) = ((min (max (max p q) r).ceil limit : Int) : Rat) := by
    rw [least_eq, greatest_eq, greatest_eq, Int.cast_min]
    rfl
  unfold span
  dsimp only
  rw [hfirst, hlast, toIndex_intCast, toIndex_intCast]
  simp only [Int.cast_lt]

theorem lt_of_mem_span {p q r : Rat} {limit i : Nat} (h : i ∈ span p q r limit) : i < limit := by
  rw [span_eq] at h
  dsimp only at h
  split at h
  · rw [List.mem_range'_1] at h
    omega
  · exact absurd h List.not_mem_nil

/-- Between the outermost corners, and in the clip. -/
theorem mem_span {p q r : Rat} {limit i : Nat} (hl : limit ≤ 0xffffffff) (hi : i < limit)
    (hlo : min (min p q) r ≤ center i) (hhi : center i ≤ max (max p q) r) :
    i ∈ span p q r limit := by
  have hbelow : ((i : Int) : Rat) < center i := by
    rw [center_eq, Int.cast_natCast]
    linarith
  have habove : (center i : Rat) < ((i + 1 : Int) : Rat) := by
    rw [center_eq, Int.cast_add, Int.cast_natCast, Int.cast_one]
    linarith
  have hfirst : (min (min p q) r).floor < (i + 1 : Int) := by
    rw [Rat.floor_lt_iff]
    exact hlo.trans_lt habove
  have hlast : (i : Int) < (max (max p q) r).ceil := by
    rw [Rat.lt_ceil_iff]
    exact hbelow.trans_le hhi
  rw [span_eq]
  dsimp only
  rw [if_pos (by omega), List.mem_range'_1]
  omega

/-! ## areas over the edges -/

variable {t : Triangle Rat} {x y : Rat}

theorem edge_sum (t : Triangle Rat) (x y : Rat) :
    t.b.edge t.c x y + t.c.edge t.a x y + t.a.edge t.b x y = t.area := by
  unfold area Vertex.edge
  ring

theorem barycentric_x (t : Triangle Rat) (x y : Rat) :
    t.b.edge t.c x y * t.a.x + t.c.edge t.a x y * t.b.x + t.a.edge t.b x y * t.c.x
      = t.area * x := by
  unfold area Vertex.edge
  ring

theorem barycentric_y (t : Triangle Rat) (x y : Rat) :
    t.b.edge t.c x y * t.a.y + t.c.edge t.a x y * t.b.y + t.a.edge t.b x y * t.c.y
      = t.area * y := by
  unfold area Vertex.edge
  ring

/-- A mean lies between the values that it is the mean of. -/
theorem mean_between {u v w p q r m : Rat} (hu : 0 ≤ u) (hv : 0 ≤ v) (hw : 0 ≤ w)
    (hs : 0 < u + v + w) (h : u * p + v * q + w * r = (u + v + w) * m) :
    min (min p q) r ≤ m ∧ m ≤ max (max p q) r := by
  constructor
  · have hp : u * min (min p q) r ≤ u * p :=
      mul_le_mul_of_nonneg_left ((min_le_left _ _).trans (min_le_left _ _)) hu
    have hq : v * min (min p q) r ≤ v * q :=
      mul_le_mul_of_nonneg_left ((min_le_left _ _).trans (min_le_right _ _)) hv
    have hr : w * min (min p q) r ≤ w * r := mul_le_mul_of_nonneg_left (min_le_right _ _) hw
    refine le_of_mul_le_mul_left ?_ hs
    linarith
  · have hp : u * p ≤ u * max (max p q) r :=
      mul_le_mul_of_nonneg_left ((le_max_left _ _).trans (le_max_left _ _)) hu
    have hq : v * q ≤ v * max (max p q) r :=
      mul_le_mul_of_nonneg_left ((le_max_right _ _).trans (le_max_left _ _)) hv
    have hr : w * r ≤ w * max (max p q) r := mul_le_mul_of_nonneg_left (le_max_right _ _) hw
    refine le_of_mul_le_mul_left ?_ hs
    linarith

/-! ## orientation -/

theorem oriented?_of_neg (h : t.area < 0) : t.oriented? = some (t.flip, -t.area) := by
  have hn : ¬ 0 < t.area := not_lt.mpr h.le
  have hf : Scalar.isFinite t.area = true := rfl
  unfold oriented?
  dsimp only
  rw [if_pos hf, if_neg hn, if_pos h]

/-! ## covered pixels -/

theorem admits_iff {a b : Vertex Rat} :
    a.admits b x y = true ↔ 0 < a.edge b x y ∨ a.edge b x y = 0 ∧ a.owns b = true := by
  show (decide (0 < a.edge b x y) || decide (0 ≤ a.edge b x y) && decide (a.edge b x y ≤ 0)
    && a.owns b) = true ↔ _
  simp only [Bool.or_eq_true, Bool.and_eq_true, decide_eq_true_eq, ← le_antisymm_iff]
  exact or_congr .rfl (and_congr eq_comm .rfl)

theorem owns_iff {a b : Vertex Rat} :
    a.owns b = true ↔ a.y < b.y ∨ a.y = b.y ∧ a.x < b.x := by
  show (decide (0 < b.y - a.y) || decide (0 ≤ b.y - a.y) && decide (b.y - a.y ≤ 0)
    && decide (0 < b.x - a.x)) = true ↔ _
  simp only [Bool.or_eq_true, Bool.and_eq_true, decide_eq_true_eq, sub_pos, sub_nonneg,
    sub_nonpos, ← le_antisymm_iff]

theorem edge_nonneg {a b : Vertex Rat} (h : a.admits b x y = true) : 0 ≤ a.edge b x y := by
  rcases admits_iff.mp h with h | ⟨h, -⟩
  · exact h.le
  · exact h.ge

theorem admits_of_owned {a b : Vertex Rat} (h : a.owns b = true) :
    a.admits b x y = true ↔ 0 ≤ a.edge b x y := by
  rw [admits_iff, le_iff_lt_or_eq, eq_comm]
  simp only [h, and_true]

theorem admits_of_not_owned {a b : Vertex Rat} (h : a.owns b = false) :
    a.admits b x y = true ↔ 0 < a.edge b x y := by
  rw [admits_iff]
  simp only [h, Bool.false_eq_true, and_false, or_false]

theorem covers_iff {i j : Nat} :
    t.covers i j = true ↔
      t.b.admits t.c (center i) (center j) = true ∧ t.c.admits t.a (center i) (center j) = true ∧
        t.a.admits t.b (center i) (center j) = true := by
  rw [covers, Bool.and_eq_true, Bool.and_eq_true, and_assoc]

/-- **The pixels that are drawn**: those of the clip that are covered. -/
theorem mem_pixels (ha : 0 < t.area) {width height i j : Nat} (hw : width ≤ 0xffffffff)
    (hh : height ≤ 0xffffffff) :
    (i, j) ∈ t.pixels width height ↔ i < width ∧ j < height ∧ t.covers i j = true := by
  have hbox : (i, j) ∈ t.box width height ↔
      i ∈ span t.a.x t.b.x t.c.x width ∧ j ∈ span t.a.y t.b.y t.c.y height := by
    simp [box, and_comm]
  rw [pixels, List.mem_filter, hbox]
  constructor
  · rintro ⟨⟨hi, hj⟩, hc⟩
    exact ⟨lt_of_mem_span hi, lt_of_mem_span hj, hc⟩
  · rintro ⟨hi, hj, hc⟩
    obtain ⟨h₁, h₂, h₃⟩ := covers_iff.mp hc
    have hs : 0 < t.b.edge t.c (center i) (center j) + t.c.edge t.a (center i) (center j)
        + t.a.edge t.b (center i) (center j) := by
      rw [edge_sum]
      exact ha
    have hx := mean_between (edge_nonneg h₁) (edge_nonneg h₂) (edge_nonneg h₃) hs
      ((barycentric_x t _ _).trans (by rw [edge_sum]))
    have hy := mean_between (edge_nonneg h₁) (edge_nonneg h₂) (edge_nonneg h₃) hs
      ((barycentric_y t _ _).trans (by rw [edge_sum]))
    exact ⟨⟨mem_span hw hi hx.1 hx.2, mem_span hh hj hy.1 hy.2⟩, hc⟩

end Triangle
end FireflyOverlay
