import Mathlib.Data.Rat.Floor
import Mathlib.Tactic.Linarith
import Mathlib.Tactic.Positivity
import FireflyOverlay.Scalar.Exact

/-!
# Exact arithmetic

What the operations of a scalar are on the rationals.

* `least_eq`, `greatest_eq`, `ofInt_eq`   these are the usual ones;
* `trunc_eq_or`, `trunc_of_nonneg`   towards zero: the floor, or one more;
* `round_of_nonneg`, `toNat_toByte`   the nearest integer, and the byte of a channel.
-/

namespace FireflyOverlay
namespace Exact

theorem least_eq (a b : Rat) : Scalar.least a b = min a b := (min_def a b).symm

theorem greatest_eq (a b : Rat) : Scalar.greatest a b = max a b := by
  rw [max_comm]
  exact (max_def b a).symm

theorem ofInt_eq (n : Int) : (Scalar.ofInt n : Rat) = n := by
  show (if n < 0 then -((n.natAbs : Nat) : Rat) else ((n.natAbs : Nat) : Rat)) = n
  split
  · next h => rw [Nat.cast_natAbs, abs_of_neg h, Int.cast_neg, neg_neg]
  · next h => rw [Nat.cast_natAbs, abs_of_nonneg (not_lt.mp h)]

theorem trunc_of_nonneg {x : Rat} (h : 0 ≤ x) : Scalar.trunc x = ⌊x⌋ := if_neg (not_lt.mpr h)

theorem trunc_eq_or (x : Rat) : trunc x = ⌊x⌋ ∨ trunc x = ⌊x⌋ + 1 := by
  unfold trunc
  split
  · have hceil : -(-x).floor = ⌈x⌉ := neg_eq_iff_eq_neg.mpr (Int.floor_neg (a := x))
    have hle : ⌊x⌋ ≤ ⌈x⌉ := Int.floor_le_ceil x
    have hle' : ⌈x⌉ ≤ ⌊x⌋ + 1 := Int.ceil_le_floor_add_one x
    rw [hceil]
    omega
  · exact .inl rfl

theorem trunc_intCast (n : Int) : Scalar.trunc (n : Rat) = n := by
  show Exact.trunc (n : Rat) = n
  unfold Exact.trunc
  split
  · rw [← Int.cast_neg, Rat.floor_intCast, neg_neg]
  · exact Rat.floor_intCast n

/-- The index of a whole number. -/
theorem toIndex_intCast (n : Int) : Scalar.toIndex (n : Rat) = min n.toNat 0xffffffff := by
  rw [Scalar.toIndex, trunc_intCast]

theorem round_of_nonneg {x : Rat} (h : 0 ≤ x) : Scalar.round x = ⌊x + 1 / 2⌋ := by
  have hle : (⌊x⌋ : Rat) ≤ x := Int.floor_le x
  have hlt : x < ⌊x⌋ + 1 := Int.lt_floor_add_one x
  unfold Scalar.round
  dsimp only
  rw [trunc_of_nonneg h, ofInt_eq]
  symm
  split
  · next hhalf =>
    have hhalf : (1 / 2 : Rat) ≤ x - ⌊x⌋ := hhalf
    rw [Int.floor_eq_iff]
    push_cast
    constructor <;> linarith
  · next hhalf =>
    have hhalf : ¬ (1 / 2 : Rat) ≤ x - ⌊x⌋ := hhalf
    rw [Int.floor_eq_iff]
    constructor <;> linarith

theorem clampUnit_of_nonneg {x : Rat} (h : 0 ≤ x) : Scalar.clampUnit x = min x 1 := by
  show (if x < 0 then (0 : Rat) else if 1 < x then 1 else x) = min x 1
  rw [if_neg (not_lt.mpr h)]
  split
  · next hx => exact (min_eq_right hx.le).symm
  · next hx => exact (min_eq_left (not_lt.mp hx)).symm

theorem toNat_toByte {x : Rat} (h : 0 ≤ x) :
    (Scalar.toByte x).toNat = min 255 ⌊255 * x + 1 / 2⌋.toNat := by
  have hclamp : 0 ≤ min x 1 * 255 := by positivity
  have hround : Scalar.round (Scalar.clampUnit x * 255) = ⌊min x 1 * 255 + 1 / 2⌋ := by
    rw [clampUnit_of_nonneg h]
    exact round_of_nonneg hclamp
  have hmin : ⌊min x 1 * 255 + 1 / 2⌋ = min 255 ⌊255 * x + 1 / 2⌋ := by
    rcases le_total x 1 with hx | hx
    · have hlt : ⌊255 * x + 1 / 2⌋ < 256 := Int.floor_lt.mpr (by push_cast; linarith)
      rw [min_eq_left hx, mul_comm, min_eq_right (by omega)]
    · have hle : 255 ≤ ⌊255 * x + 1 / 2⌋ := Int.le_floor.mpr (by push_cast; linarith)
      rw [min_eq_right hx, min_eq_left hle]
      norm_num
  unfold Scalar.toByte
  rw [hround, hmin]
  show (min 255 ⌊255 * x + 1 / 2⌋).toNat % 2 ^ 8 = _
  omega

end Exact
end FireflyOverlay
