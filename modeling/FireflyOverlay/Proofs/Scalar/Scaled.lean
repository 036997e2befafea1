import FireflyOverlay.Proofs.Scalar.Arithmetic

/-!
# A unit times a whole number

A float from 0 up to, but not including, 1 may be so small that it lacks digits, and so may its
products.  Such a product is rounded like any other, and its whole part stays in the range.

* `unpack_of_unit`, `unpack_of_value`   a unit has all its digits after the point, a whole number
                       does not need them all;
* `wholePart_unit_mul`   rounding adds less than one to the product, so its whole part stays in the
                       range;
* `index_unit_mul`     the same of the float that is packed;
* `trunc_unit_mul`     a unit times `n` is cut to a whole number from 0 to `n`.
-/

namespace FireflyOverlay
namespace Single

open Float.Model Float.Model.UnpackedFloat

/-- A float from 0 up to 1 is zero, or all its digits come after the point. -/
theorem unpack_of_unit {u : Float32} (h0 : ofNat 0 ≤ u) (h1 : u < ofNat 1) :
    (∃ s, u.toModel.unpack = .zero s) ∨
      ∃ m e hm, u.toModel.unpack = .finite .positive m e hm ∧ m < 2 ^ 24 ∧ -149 ≤ e ∧ e ≤ -24 := by
  have hcanonical : Canonical u.toModel.unpack := canonical_unpack _
  rw [le_iff, unpack_zero] at h0
  rw [lt_iff] at h1
  generalize u.toModel.unpack = v at *
  have hone : (ofNat 1).toModel.unpack = .finite .positive (2 ^ 23) (-23) (by decide) := rfl
  rw [hone] at h1
  cases v with
  | notANumber => cases h0
  | infinity s => cases s with
    | negative => cases h0
    | positive => cases h1
  | zero s => exact .inl ⟨s, rfl⟩
  | finite s m e hm => cases s with
    | negative => cases h0
    | positive =>
      obtain ⟨hm₂, he, hc⟩ := hcanonical
      refine .inr ⟨m, e, hm, rfl, hm₂, he, ?_⟩
      change (some ((compare e (-23)).then (compare m (2 ^ 23))) == some .lt) = true at h1
      by_contra hlarge
      rcases lt_or_eq_of_le (show -23 ≤ e by omega) with hgt | rfl
      · rw [Int.compare_eq_gt.mpr hgt] at h1
        cases h1
      · have hfull : 2 ^ 23 ≤ m := hc.resolve_left (by decide)
        have hlt : compare m (2 ^ 23) = .lt := by simpa using h1
        exact absurd (Nat.compare_eq_lt.mp hlt) (by omega)

theorem unpack_of_value {x : Float32} {n : Nat} (h : HasValue x (n * 2 ^ 149 : Nat)) (hn : 0 < n)
    (hn' : n < 2 ^ 24) :
    ∃ m e hm, x.toModel.unpack = .finite .positive m e hm ∧ 2 ^ 23 ≤ m ∧ m < 2 ^ 24 ∧
      -23 ≤ e ∧ e ≤ 0 ∧ m * 2 ^ (e + 149).toNat = n * 2 ^ 149 := by
  rcases units?_eq_some h with ⟨s, -, hv⟩ | ⟨s, m, e, hm, hu, ⟨hm₁, hm₂, he, -⟩, hv⟩
  · omega
  cases s with
  | negative =>
    change _ = -((m * 2 ^ (e + 149).toNat : Nat) : Int) at hv
    omega
  | positive =>
    have hvalue : m * 2 ^ (e + 149).toNat = n * 2 ^ 149 := (Int.natCast_inj.mp hv).symm
    refine ⟨m, e, hm, hu, hm₁, hm₂, exponent_of_one_le hm₂ (by omega), ?_, hvalue⟩
    by_contra hlarge
    have hpow : 2 ^ 150 ≤ 2 ^ (e + 149).toNat := Nat.pow_le_pow_right (by decide) (by omega)
    have hcontra : 2 ^ 23 * 2 ^ 150 ≤ m * 2 ^ (e + 149).toNat := Nat.mul_le_mul hm₁ hpow
    omega

/-- The last digit of a product of a unit stands for one at most. -/
theorem unit_mul_exponent_le {a b k : Nat} {e f : Int} (ha : a < 2 ^ 24) (hb : b < 2 ^ 24)
    (he : e ≤ -24) (hf : f ≤ 0) (hab : a * b ≠ 0)
    (hk : e + f + k = max ((a * b).log2 + (e + f) - 23) (-149)) : e + f + k ≤ 0 := by
  have hlt : a * b < 2 ^ 24 * 2 ^ 24 := Nat.mul_lt_mul'' ha hb
  rw [← Nat.pow_add] at hlt
  have hlog : (a * b).log2 < 48 := (Nat.log2_lt hab).mpr hlt
  omega

/-- So the rounding adds less than one. -/
theorem wholePart_unit_mul {a b n k : Nat} {e f : Int} (ha : a < 2 ^ 24) (hb : b < 2 ^ 24)
    (he : e ≤ -24) (hf : -149 ≤ f) (hf' : f ≤ 0) (hn : 0 < n) (hab : a * b ≠ 0)
    (hvalue : b * 2 ^ (f + 149).toNat = n * 2 ^ 149)
    (hk : e + f + k = max ((a * b).log2 + (e + f) - 23) (-149)) :
    inUnits k (a * b) * 2 ^ (e + f + k + 149).toNat / 2 ^ 149 ≤ n := by
  obtain ⟨j, hj⟩ : ∃ j : Nat, e + f + k + 149 = j :=
    ⟨(e + f + k + 149).toNat, by omega⟩
  obtain ⟨p, hp⟩ : ∃ p : Nat, e = -p := ⟨(-e).toNat, by omega⟩
  obtain ⟨q, hq⟩ : ∃ q : Nat, f + 149 = q := ⟨(f + 149).toNat, by omega⟩
  rw [hj, Int.toNat_natCast]
  rw [hq, Int.toNat_natCast] at hvalue
  have hj149 : j ≤ 149 := by
    have hexponent := unit_mul_exponent_le ha hb he hf' hab hk
    omega
  have hround : inUnits k (a * b) * 2 ^ k ≤ a * b + 2 ^ k := by
    have hfloor : a * b / 2 ^ k * 2 ^ k ≤ a * b := Nat.div_mul_le_self ..
    calc inUnits k (a * b) * 2 ^ k ≤ (a * b / 2 ^ k + 1) * 2 ^ k :=
          Nat.mul_le_mul_right _ (le_inUnits k (a * b)).2
      _ ≤ a * b + 2 ^ k := by rw [Nat.add_mul, Nat.one_mul]; omega
  have hproduct : a * b * 2 ^ j < n * 2 ^ 149 * 2 ^ k := by
    have hexp : j + p = q + k := by omega
    have hunit : a < 2 ^ p := ha.trans_le (Nat.pow_le_pow_right (by decide) (by omega))
    refine Nat.lt_of_mul_lt_mul_right (a := 2 ^ p) ?_
    calc a * b * 2 ^ j * 2 ^ p = a * (n * 2 ^ 149 * 2 ^ k) := by
          rw [Nat.mul_assoc (a * b), ← Nat.pow_add, hexp, Nat.pow_add, ← hvalue]
          ring
      _ < 2 ^ p * (n * 2 ^ 149 * 2 ^ k) := Nat.mul_lt_mul_of_pos_right hunit (by positivity)
      _ = n * 2 ^ 149 * 2 ^ k * 2 ^ p := Nat.mul_comm ..
  refine Nat.le_of_lt_succ ((Nat.div_lt_iff_lt_mul (Nat.two_pow_pos 149)).mpr ?_)
  refine Nat.lt_of_mul_lt_mul_right (a := 2 ^ k) ?_
  calc inUnits k (a * b) * 2 ^ j * 2 ^ k ≤ (a * b + 2 ^ k) * 2 ^ j := by
        rw [Nat.mul_right_comm]
        exact Nat.mul_le_mul_right _ hround
    _ = a * b * 2 ^ j + 2 ^ j * 2 ^ k := by ring
    _ < n * 2 ^ 149 * 2 ^ k + 2 ^ 149 * 2 ^ k :=
        Nat.add_lt_add_of_lt_of_le hproduct
          (Nat.mul_le_mul_right _ (Nat.pow_le_pow_right (by decide) hj149))
    _ = (n + 1) * 2 ^ 149 * 2 ^ k := by ring

theorem trunc_of_toIndex_le {x : Float32} {n : Nat} (hn : n < 0xffffffff) (hx : ¬ x < ofNat 0)
    (h : Scalar.toIndex x ≤ n) : 0 ≤ Scalar.trunc x ∧ Scalar.trunc x ≤ n := by
  have htrunc : Scalar.trunc x = ((min x.toUInt64.toNat 0x7fffffffffffffff : Nat) : Int) :=
    if_neg hx
  unfold Scalar.toIndex at h
  omega

theorem index_unit_mul {u x : Float32} {n : Nat} (h0 : ofNat 0 ≤ u) (h1 : u < ofNat 1)
    (hx : HasValue x (n * 2 ^ 149 : Nat)) (hn : 0 < n) (hn' : n < 2 ^ 24) :
    (u * x).toModel.unpack.lt (.zero .positive) = false ∧ index (u * x).toModel.unpack ≤ n := by
  have hzero : ∀ s, (Float32.Model.pack (.zero s)).unpack = .zero s := fun s =>
    unpack_pack_of_units? rfl
  obtain ⟨b, f, hb, hux, hb₁, hb₂, hf, hf', hvalue⟩ := unpack_of_value hx hn hn'
  have hmodel : (u * x).toModel
      = .pack (UnpackedFloat.mul Format.binary32 u.toModel.unpack x.toModel.unpack) := rfl
  rw [hmodel, hux]
  rcases unpack_of_unit h0 h1 with ⟨s, hu⟩ | ⟨a, e, ha, hu, ha₂, he, he'⟩
  · rw [hu, UnpackedFloat.mul, hzero]
    exact ⟨rfl, Nat.zero_le n⟩
  · rw [hu]
    have hfull : 2 ^ 23 ≤ a * b := hb₁.trans (Nat.le_mul_of_pos_left b ha)
    have hmul : UnpackedFloat.mul Format.binary32 (.finite .positive a e ha)
        (.finite .positive b f hb)
        = roundWithAccuracy Format.binary32 .positive (a * b) (e + f) .exact := rfl
    rw [hmul]
    obtain ⟨k, hk, hcase⟩ := roundWithAccuracy_cases .positive (e + f) hfull
    rcases hcase with ⟨-, heq⟩ | ⟨d, g, hd, heq, hd₂, hc, hg, hg', hdigits⟩
    · rw [heq, hzero]
      exact ⟨rfl, Nat.zero_le n⟩
    · have hexponent := unit_mul_exponent_le ha₂ hb₂ he' hf' (by omega) hk
      rw [heq, unpack_pack_of_canonical ⟨hd₂, hg, hc⟩ (by omega)]
      refine ⟨rfl, (Nat.min_le_left ..).trans ?_⟩
      rw [wholePart, hdigits]
      exact wholePart_unit_mul ha₂ hb₂ he' (by omega) hf' hn (by omega) hvalue hk

/-- **A unit times a whole number stays in its range**, in single precision. -/
theorem trunc_unit_mul {u : Float32} (h0 : ofNat 0 ≤ u) (h1 : u < ofNat 1) {n : Nat} (hn : 0 < n)
    (hn' : n < 2 ^ 24) :
    0 ≤ Scalar.trunc (u * ofNat n) ∧ Scalar.trunc (u * ofNat n) ≤ n := by
  have hvalue : HasValue (ofNat n) (n * 2 ^ 149 : Nat) := by
    have hnearest := hasValue_ofNat (show n < 2 ^ 64 by omega)
    rwa [nearest_of_le hn'.le] at hnearest
  obtain ⟨hpos, hindex⟩ := index_unit_mul h0 h1 hvalue hn hn'
  refine trunc_of_toIndex_le (by omega) ?_ (by rwa [toIndex_eq])
  rw [lt_iff, unpack_zero, hpos]
  exact Bool.false_ne_true

end Single
end FireflyOverlay
