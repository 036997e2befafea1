import Mathlib.Algebra.Order.Field.Basic
import Mathlib.Algebra.Order.Group.Pointwise.Interval
import Mathlib.Tactic.FieldSimp
import Mathlib.Tactic.Linarith
import Mathlib.Tactic.Ring
import FireflyOverlay.Matrix
import FireflyOverlay.Scalar.Exact

/-!
# The projection of a box

In exact arithmetic each axis of a box is stretched on its own, and either of its bounds may be the
greater one.  The third axis is turned around before: its bounds are distances against it.

* `Mat4.stretch`       the stretch of an axis: one number goes to -1, another one to 1;
* `abs_stretch_le_one_iff`   what goes into the range from -1 to 1 is what lies between the two;
* `ortho_applyPoint`   the projection of a point;
* `orthoLaws`          which bounds go where, and which points go into the cube;
* `unitCube_turned`    even the cube itself is projected with its near side to the far one.
-/

namespace FireflyOverlay
namespace Mat4

/-! ## one axis -/

/-- The affine map that takes `low` to -1 and `high` to 1. -/
def stretch (low high x : Rat) : Rat := (2 * x - low - high) / (high - low)

section
variable {low high : Rat}

theorem stretch_eq_iff (h : low ≠ high) {x y : Rat} :
    stretch low high x = y ↔ 2 * x - low - high = y * (high - low) :=
  div_eq_iff (sub_ne_zero.mpr h.symm)

theorem stretch_low (h : low ≠ high) : stretch low high low = -1 :=
  (stretch_eq_iff h).mpr (by ring)

theorem stretch_high (h : low ≠ high) : stretch low high high = 1 :=
  (stretch_eq_iff h).mpr (by ring)

/-- Turned around, a bound goes where it would have gone only if it is 0. -/
theorem stretch_neg_low_iff (h : low ≠ high) : stretch low high (-low) = -1 ↔ low = 0 := by
  rw [stretch_eq_iff h]
  constructor <;> intro heq <;> linarith

theorem stretch_neg_high_iff (h : low ≠ high) : stretch low high (-high) = 1 ↔ high = 0 := by
  rw [stretch_eq_iff h]
  constructor <;> intro heq <;> linarith

theorem abs_stretch_le_one_iff (h : low ≠ high) (x : Rat) :
    |stretch low high x| ≤ 1 ↔ x ∈ Set.uIcc low high := by
  unfold stretch
  rw [abs_div, div_le_one (abs_pos.mpr (sub_ne_zero.mpr h.symm)), Set.mem_uIcc]
  rcases lt_or_gt_of_ne h with hlt | hlt
  · rw [abs_of_pos (sub_pos.mpr hlt), abs_le]
    constructor
    · rintro ⟨hl, hr⟩
      exact .inl ⟨by linarith, by linarith⟩
    · rintro (⟨hl, hr⟩ | ⟨hl, hr⟩) <;> constructor <;> linarith
  · rw [abs_of_neg (sub_neg.mpr hlt), abs_le]
    constructor
    · rintro ⟨hl, hr⟩
      exact .inr ⟨by linarith, by linarith⟩
    · rintro (⟨hl, hr⟩ | ⟨hl, hr⟩) <;> constructor <;> linarith

/-- A range is the same from both sides if its bounds are opposite, and only then. -/
theorem forall_neg_mem_uIcc_iff :
    (∀ x, -x ∈ Set.uIcc low high ↔ x ∈ Set.uIcc low high) ↔ low + high = 0 := by
  constructor
  · intro hall
    have hlow := (hall low).mpr Set.left_mem_uIcc
    have hhigh := (hall high).mpr Set.right_mem_uIcc
    rw [Set.mem_uIcc] at hlow hhigh
    rcases hlow with ⟨h₁, h₂⟩ | ⟨h₁, h₂⟩ <;> rcases hhigh with ⟨h₃, h₄⟩ | ⟨h₃, h₄⟩ <;> linarith
  · intro hsum x
    obtain rfl : high = -low := eq_neg_of_add_eq_zero_right hsum
    rw [← Set.mem_neg, Set.neg_uIcc, neg_neg, Set.uIcc_comm]

end

/-! ## three axes -/

/-- Each coordinate is a number from -1 to 1. -/
def InCube (p : Vec4 Rat) : Prop := |p.x| ≤ 1 ∧ |p.y| ≤ 1 ∧ |p.z| ≤ 1

variable {left right bottom top near far : Rat}

/-- Each coordinate is stretched on its own; the third one is turned around before. -/
theorem ortho_applyPoint (hx : left ≠ right) (hy : bottom ≠ top) (hz : near ≠ far) (x y z : Rat) :
    (ortho left right bottom top near far).applyPoint x y z
      = ⟨stretch left right x, stretch bottom top y, stretch near far (-z), 1⟩ := by
  have axis : ∀ {low high : Rat}, low ≠ high → ∀ x,
      2 / (high - low) * x + (high + low) / (low - high) = stretch low high x := by
    intro low high h x
    have hne : high - low ≠ 0 := sub_ne_zero.mpr h.symm
    rw [← neg_sub high low, eq_comm, stretch_eq_iff h]
    field_simp
    ring
  have turned : 2 / (far - near) * -z = -2 / (far - near) * z := by ring
  rw [← axis hx, ← axis hy, ← axis hz, turned]
  simp only [applyPoint, apply, ortho, Vec4.dot, Vec4.mk.injEq]
  refine ⟨?_, ?_, ?_, ?_⟩ <;> ring

/-- Where the points of space go, in exact arithmetic. -/
structure OrthoLaws (left right bottom top near far : Rat) : Prop where
  /-- each coordinate goes by an affine map of its own, whatever the others are -/
  image : ∀ x y z, (ortho left right bottom top near far).applyPoint x y z
    = ⟨stretch left right x, stretch bottom top y, stretch near far (-z), 1⟩
  /-- the bounds of the first two axes go to -1 and 1, -/
  columns : ∀ y z, ((ortho left right bottom top near far).applyPoint left y z).x = -1 ∧
    ((ortho left right bottom top near far).applyPoint right y z).x = 1
  rows : ∀ x z, ((ortho left right bottom top near far).applyPoint x bottom z).y = -1 ∧
    ((ortho left right bottom top near far).applyPoint x top z).y = 1
  /-- and of the third axis the points opposite to its bounds -/
  depths : ∀ x y, ((ortho left right bottom top near far).applyPoint x y (-near)).z = -1 ∧
    ((ortho left right bottom top near far).applyPoint x y (-far)).z = 1
  /-- so the near bound goes to -1 only if it is 0, and the far bound to 1 only if it is 0; -/
  near_iff : ∀ x y, ((ortho left right bottom top near far).applyPoint x y near).z = -1 ↔ near = 0
  far_iff : ∀ x y, ((ortho left right bottom top near far).applyPoint x y far).z = 1 ↔ far = 0
  /-- opposite bounds go to the ends of each other -/
  exchanged : near + far = 0 → ∀ x y,
    ((ortho left right bottom top near far).applyPoint x y near).z = 1 ∧
      ((ortho left right bottom top near far).applyPoint x y far).z = -1
  /-- a point goes into the cube if it lies in the box, turned around in the third axis, -/
  inside_iff : ∀ x y z, InCube ((ortho left right bottom top near far).applyPoint x y z) ↔
    x ∈ Set.uIcc left right ∧ y ∈ Set.uIcc bottom top ∧ -z ∈ Set.uIcc near far
  /-- and for all points that is the box itself only if the bounds of this axis are opposite -/
  box_iff : (∀ x y z, InCube ((ortho left right bottom top near far).applyPoint x y z) ↔
    x ∈ Set.uIcc left right ∧ y ∈ Set.uIcc bottom top ∧ z ∈ Set.uIcc near far) ↔ near + far = 0

theorem orthoLaws (hx : left ≠ right) (hy : bottom ≠ top) (hz : near ≠ far) :
    OrthoLaws left right bottom top near far := by
  have image := ortho_applyPoint hx hy hz
  have inside : ∀ x y z, InCube ((ortho left right bottom top near far).applyPoint x y z) ↔
      x ∈ Set.uIcc left right ∧ y ∈ Set.uIcc bottom top ∧ -z ∈ Set.uIcc near far := by
    intro x y z
    rw [image, InCube, abs_stretch_le_one_iff hx, abs_stretch_le_one_iff hy,
      abs_stretch_le_one_iff hz]
  refine
    { image
      columns := fun y z => ?_
      rows := fun x z => ?_
      depths := fun x y => ?_
      near_iff := fun x y => ?_
      far_iff := fun x y => ?_
      exchanged := fun hsum x y => ?_
      inside_iff := inside
      box_iff := ?_ }
  · rw [image, image]
    exact ⟨stretch_low hx, stretch_high hx⟩
  · rw [image, image]
    exact ⟨stretch_low hy, stretch_high hy⟩
  · rw [image, image, neg_neg, neg_neg]
    exact ⟨stretch_low hz, stretch_high hz⟩
  · rw [image]
    exact stretch_neg_low_iff hz
  · rw [image]
    exact stretch_neg_high_iff hz
  · rw [image, image, ← eq_neg_of_add_eq_zero_right hsum, ← eq_neg_of_add_eq_zero_left hsum]
    exact ⟨stretch_high hz, stretch_low hz⟩
  · rw [← forall_neg_mem_uIcc_iff]
    constructor
    · intro hbox z
      have hz := (inside left bottom z).symm.trans (hbox left bottom z)
      simpa only [Set.left_mem_uIcc, true_and] using hz
    · intro hturn x y z
      rw [inside, hturn]

/-- A screen of 480 columns and 800 rows, the rows counted downward. -/
theorem orthoLaws_screen : OrthoLaws 0 480 800 0 (-1) 1 :=
  orthoLaws (by decide +kernel) (by decide +kernel) (by decide +kernel)

/-- The near corner of the cube goes to a far one. -/
theorem unitCube_turned :
    (ortho (-1) 1 (-1) 1 (-1) 1 : Mat4 Rat).applyPoint (-1) (-1) (-1) = ⟨-1, -1, 1, 1⟩ ∧
      ((ortho (-1) 1 (-1) 1 (-1) 1 : Mat4 Rat).applyPoint (-1) (-1) (-1)).z ≠ -1 := by
  decide +kernel

end Mat4
end FireflyOverlay
