import FireflyOverlay.Proofs.Scalar.Single

/-!
# Arithmetic of floats

Where the exact result is zero, or not too small and not too great, a sum, a difference or a product
of floats is this result, rounded to 24 digits.

* `Single.rounded`     a whole number rounded to 24 binary digits, whatever its sign;
* `HasValue.add`, `HasValue.sub`, `HasValue.mul`   values of results;
* `HasValue.pos`       a float is positive if its value is.
-/

namespace FireflyOverlay
namespace Single

open Float.Model Float.Model.UnpackedFloat

/-! ## rounding with a sign -/

def rounded (v : Int) : Int := v.sign * (nearest v.natAbs : Nat)

theorem rounded_apply (s : Sign) (n : Nat) :
    rounded (s.apply (n : Int)) = s.apply (nearest n : Nat) := by
  rcases Nat.eq_zero_or_pos n with rfl | hn
  · cases s <;> rfl
  · have hsign : (n : Int).sign = 1 := Int.sign_eq_one_of_pos (by omega)
    cases s with
    | positive =>
      show (n : Int).sign * (nearest (n : Int).natAbs : Nat) = nearest n
      rw [hsign, Int.one_mul, Int.natAbs_natCast]
    | negative =>
      show (-(n : Int)).sign * (nearest (-(n : Int)).natAbs : Nat) = -(nearest n : Int)
      rw [Int.sign_neg, hsign, Int.natAbs_neg, Int.natAbs_natCast]
      omega

theorem rounded_mono {v w : Int} (hv : 0 ≤ v) (h : v ≤ w) : rounded v ≤ rounded w := by
  obtain ⟨m, rfl⟩ := Int.eq_ofNat_of_zero_le hv
  obtain ⟨n, rfl⟩ := Int.eq_ofNat_of_zero_le (hv.trans h)
  have hm : rounded (m : Int) = nearest m := rounded_apply .positive m
  have hn : rounded (n : Int) = nearest n := rounded_apply .positive n
  rw [hm, hn]
  exact Int.ofNat_le.mpr (nearest_mono (Int.ofNat_le.mp h))

theorem rounded_neg (v : Int) : rounded (-v) = -rounded v := by
  rw [rounded, Int.sign_neg, Int.natAbs_neg, Int.neg_mul, rounded]

theorem rounded_two_pow (k : Nat) : rounded (2 ^ k : Nat) = (2 ^ k : Nat) := by
  have hfew := nearest_of_few (n := 1) (by decide) k
  rw [Nat.one_mul] at hfew
  exact (rounded_apply .positive _).trans (congrArg Nat.cast hfew)

theorem two_pow_le_rounded {v : Int} {k : Nat} (h : (2 ^ k : Nat) ≤ v) :
    (2 ^ k : Nat) ≤ rounded v :=
  (rounded_two_pow k).symm.trans_le (rounded_mono (Int.natCast_nonneg _) h)

theorem rounded_le_two_pow {v : Int} {k : Nat} (hv : 0 ≤ v) (h : v ≤ (2 ^ k : Nat)) :
    rounded v ≤ (2 ^ k : Nat) :=
  (rounded_mono hv h).trans_eq (rounded_two_pow k)

theorem rounded_of_units? {u : UnpackedFloat} {v : Int} (h : units? u = some v) :
    rounded v = v := by
  rcases units?_eq_some h with ⟨s, -, rfl⟩ | ⟨s, m, e, -, -, ⟨-, hm, -, -⟩, rfl⟩
  · rfl
  · rw [rounded_apply, nearest_of_few hm]

theorem exists_apply (z : Int) (hz : z ≠ 0) : ∃ (s : Sign) (n : Nat), n ≠ 0 ∧ z = s.apply n := by
  rcases lt_or_gt_of_ne hz with h | h
  · exact ⟨.negative, z.natAbs, by omega, show z = -(z.natAbs : Int) by omega⟩
  · exact ⟨.positive, z.natAbs, by omega, show z = (z.natAbs : Int) by omega⟩

theorem natAbs_apply (s : Sign) (n : Nat) : (s.apply (n : Int)).natAbs = n := by
  cases s with
  | positive => exact Int.natAbs_natCast n
  | negative => exact (Int.natAbs_neg _).trans (Int.natAbs_natCast n)

theorem apply_mul (s : Sign) (m n : Int) : s.apply m * n = s.apply (m * n) := by
  cases s with
  | positive => rfl
  | negative => exact Int.neg_mul m n

theorem units?_normalize {z e v : Int} (he : -149 ≤ e) (hv : z * (2 ^ (e + 149).toNat : Nat) = v)
    (hlow : v = 0 ∨ 2 ^ 23 ≤ v.natAbs) (hmax : v.natAbs < 2 ^ 256) :
    units? (UnpackedFloat.normalize Format.binary32 z e .positive) = some (rounded v) := by
  rcases eq_or_ne z 0 with rfl | hz
  · rw [← hv, Int.zero_mul]
    rfl
  · obtain ⟨s, n, hn, rfl⟩ := exists_apply z hz
    have hpos : 0 < 2 ^ (e + 149).toNat := Nat.two_pow_pos _
    have happly : v = s.apply (n * 2 ^ (e + 149).toNat : Nat) := by
      rw [← hv, apply_mul, Nat.cast_mul]
    have habs : v.natAbs = n * 2 ^ (e + 149).toNat := happly ▸ natAbs_apply ..
    have hnonzero : n * 2 ^ (e + 149).toNat ≠ 0 := Nat.mul_ne_zero hn hpos.ne'
    rw [normalize_apply s _ hn, happly, rounded_apply]
    exact units?_round s he (by omega) (by omega)

/-! ## operations -/

/-- On a smaller unit there are more units. -/
theorem apply_shiftLeft (s : Sign) (m : Nat) {e f : Int} (hf : -149 ≤ f) (h : f ≤ e) :
    s.apply ((m <<< (e - f).toNat : Nat) : Int) * (2 ^ (f + 149).toNat : Nat)
      = s.apply (m * 2 ^ (e + 149).toNat : Nat) := by
  have hsum : (e + 149).toNat = (e - f).toNat + (f + 149).toNat := by omega
  rw [apply_mul, Nat.shiftLeft_eq, hsum, Nat.pow_add, ← Nat.mul_assoc]
  rfl

theorem units?_neg {u : UnpackedFloat} {v : Int} (h : units? u = some v) :
    units? u.neg = some (-v) := by
  rcases units?_eq_some h with ⟨s, rfl, rfl⟩ | ⟨s, m, e, hm, rfl, hbounds, rfl⟩
  · rfl
  · refine (if_pos hbounds).trans (congrArg some ?_)
    cases s with
    | positive => rfl
    | negative => exact (Int.neg_neg _).symm

theorem units?_sub {u u' : UnpackedFloat} {v w : Int} (hu : units? u = some v)
    (hu' : units? u' = some w) (hlow : v - w = 0 ∨ 2 ^ 23 ≤ (v - w).natAbs)
    (hmax : (v - w).natAbs < 2 ^ 256) :
    units? (UnpackedFloat.sub Format.binary32 u u') = some (rounded (v - w)) := by
  rcases units?_eq_some hu with ⟨s, rfl, rfl⟩ | ⟨s, m, e, hm, rfl, ⟨-, -, he, -⟩, rfl⟩
  · have hneg : units? u'.neg = some (0 - w) := (Int.zero_sub w).symm ▸ units?_neg hu'
    rw [rounded_of_units? hneg, ← hneg]
    rcases units?_eq_some hu' with ⟨t, rfl, rfl⟩ | ⟨t, n, f, hn, rfl, -, rfl⟩
    · cases s <;> cases t <;> rfl
    · rfl
  · rcases units?_eq_some hu' with ⟨t, rfl, rfl⟩ | ⟨t, n, f, hn, rfl, ⟨-, -, hf, -⟩, rfl⟩
    · rw [Int.sub_zero, rounded_of_units? hu]
      exact hu
    · refine units?_normalize (z := s.apply _ - t.apply _) (le_min he hf) ?_ hlow hmax
      rw [Int.sub_mul, apply_shiftLeft s m (le_min he hf) (min_le_left ..),
        apply_shiftLeft t n (le_min he hf) (min_le_right ..)]

theorem add_eq_sub (u u' : UnpackedFloat) :
    UnpackedFloat.add Format.binary32 u u' = UnpackedFloat.sub Format.binary32 u u'.neg := by
  cases u with
  | notANumber => rfl
  | infinity s => cases u' with
    | infinity t => cases s <;> cases t <;> rfl
    | _ => rfl
  | zero s => cases u' with
    | zero t | finite t => cases s <;> cases t <;> rfl
    | infinity t => cases t <;> rfl
    | notANumber => rfl
  | finite s m e hm => cases u' with
    | infinity t => cases t <;> rfl
    | finite t n f hn =>
      refine congrArg (UnpackedFloat.normalize Format.binary32 · (min e f) .positive) ?_
      cases t with
      | positive => exact (Int.sub_neg ..).symm
      | negative => rfl
    | _ => rfl

theorem apply_mul_apply (s t : Sign) (m n : Int) :
    s.apply m * t.apply n = (s * t).apply (m * n) := by
  cases s <;> cases t
  · exact Int.neg_mul_neg m n
  · exact Int.neg_mul m n
  · exact Int.mul_neg m n
  · rfl

/-- The exponent of a float that is one or more. -/
theorem exponent_of_one_le {m : Nat} {e : Int} (hm : m < 2 ^ 24)
    (h : 2 ^ 149 ≤ m * 2 ^ (e + 149).toNat) : -23 ≤ e := by
  by_contra hlt
  have hpow : 2 ^ (e + 149).toNat ≤ 2 ^ 125 := Nat.pow_le_pow_right (by decide) (by omega)
  have hlt : m * 2 ^ (e + 149).toNat < 2 ^ 24 * 2 ^ 125 :=
    Nat.mul_lt_mul_of_lt_of_le hm hpow (by decide)
  omega

theorem units?_mul {u u' : UnpackedFloat} {v w z : Int} (hu : units? u = some v)
    (hu' : units? u' = some w) (hz : v * w = z * (2 ^ 149 : Nat))
    (hlow : v * w = 0 ∨ 2 ^ 149 ≤ v.natAbs ∧ 2 ^ 149 ≤ w.natAbs) (hmax : z.natAbs < 2 ^ 256) :
    units? (UnpackedFloat.mul Format.binary32 u u') = some (rounded z) := by
  rcases units?_eq_some hu with ⟨s, rfl, rfl⟩ | ⟨s, m, e, hm, rfl, ⟨hm₁, hm₂, -, -⟩, rfl⟩
  · obtain rfl : z = 0 := by omega
    rcases units?_eq_some hu' with ⟨t, rfl, -⟩ | ⟨t, n, f, hn, rfl, -, -⟩ <;> rfl
  rcases units?_eq_some hu' with ⟨t, rfl, rfl⟩ | ⟨t, n, f, hn, rfl, ⟨hn₁, hn₂, -, -⟩, rfl⟩
  · obtain rfl : z = 0 := by omega
    rfl
  have hone : 2 ^ 149 ≤ m * 2 ^ (e + 149).toNat ∧ 2 ^ 149 ≤ n * 2 ^ (f + 149).toNat := by
    have hnonzero : ∀ (s : Sign) {m : Nat} (_ : 0 < m) (k : Nat),
        s.apply (m * 2 ^ k : Nat) ≠ 0 := fun s m hm k => by
      rw [← Int.natAbs_ne_zero, natAbs_apply]
      exact (Nat.mul_pos hm (Nat.two_pow_pos k)).ne'
    rw [natAbs_apply, natAbs_apply] at hlow
    exact hlow.resolve_left (mul_ne_zero (hnonzero s hm _) (hnonzero t hn _))
  have he : -23 ≤ e := exponent_of_one_le hm₂ hone.1
  have hf : -23 ≤ f := exponent_of_one_le hn₂ hone.2
  have hexp : (e + 149).toNat + (f + 149).toNat = (e + f + 149).toNat + 149 := by omega
  have hproduct : z = (s * t).apply (m * n * 2 ^ (e + f + 149).toNat : Nat) := by
    refine mul_right_cancel₀ (b := ((2 ^ 149 : Nat) : Int)) (by decide) ?_
    rw [← hz, apply_mul_apply, apply_mul, ← Nat.cast_mul, ← Nat.cast_mul, Nat.mul_assoc (m * n),
      ← Nat.pow_add, ← hexp, Nat.pow_add, Nat.mul_mul_mul_comm]
  have hdigits : 2 ^ 23 ≤ m * n := hm₁.trans (Nat.le_mul_of_pos_right m hn)
  rw [hproduct, natAbs_apply] at hmax
  rw [hproduct, rounded_apply]
  exact units?_roundWithAccuracy (s * t) (by omega) hdigits hmax

variable {x y : Float32} {v w : Int}

theorem HasValue.sub (hx : HasValue x v) (hy : HasValue y w)
    (hlow : v - w = 0 ∨ 2 ^ 23 ≤ (v - w).natAbs) (hmax : (v - w).natAbs < 2 ^ 256) :
    HasValue (x - y) (rounded (v - w)) :=
  hasValue_of_pack rfl (units?_sub hx hy hlow hmax)

theorem HasValue.add (hx : HasValue x v) (hy : HasValue y w)
    (hlow : v + w = 0 ∨ 2 ^ 23 ≤ (v + w).natAbs) (hmax : (v + w).natAbs < 2 ^ 256) :
    HasValue (x + y) (rounded (v + w)) := by
  have hsum : v + w = v - -w := (Int.sub_neg v w).symm
  have hmodel : (x + y).toModel = .pack (UnpackedFloat.sub Format.binary32 x.toModel.unpack
      y.toModel.unpack.neg) := congrArg Float32.Model.pack (add_eq_sub ..)
  rw [hsum] at hlow hmax ⊢
  exact hasValue_of_pack hmodel (units?_sub hx (units?_neg hy) hlow hmax)

theorem HasValue.mul {z : Int} (hx : HasValue x v) (hy : HasValue y w)
    (hz : v * w = z * (2 ^ 149 : Nat))
    (hlow : v * w = 0 ∨ 2 ^ 149 ≤ v.natAbs ∧ 2 ^ 149 ≤ w.natAbs) (hmax : z.natAbs < 2 ^ 256) :
    HasValue (x * y) (rounded z) :=
  hasValue_of_pack rfl (units?_mul hx hy hz hlow hmax)

theorem HasValue.pos (hx : HasValue x v) (h : 0 < v) : (Scalar.ofNat 0 : Float32) < x := by
  refine (lt_iff _ _).mpr ?_
  show (UnpackedFloat.zero .positive).lt x.toModel.unpack = true
  rcases units?_eq_some hx with ⟨s, hs, rfl⟩ | ⟨s, m, e, hm, hs, -, rfl⟩
  · exact absurd h (Int.lt_irrefl 0)
  · rw [hs]
    cases s with
    | positive => rfl
    | negative =>
      change 0 < -((m * 2 ^ (e + 149).toNat : Nat) : Int) at h
      omega

end Single
end FireflyOverlay
