import Mathlib

/-!
# Rounding to 24 digits

A float has 24 binary digits.  A mantissa with more of them is shifted to the right, and rounded by
two bits that are kept of what is shifted out.

* `Single.inUnits`     a whole number counted in units of `2 ^ k`; a half goes to the even side;
* `roundWithAccuracy_eq`   a mantissa is rounded, and shifted once more if that makes it too long;
* `roundWithAccuracy_cases`   any mantissa of 24 digits or more, also one that loses all of them;
* `nearest`            a whole number rounded to 24 binary digits, which keeps the order
                       (`nearest_mono`).
-/

namespace FireflyOverlay
namespace Single

open Float.Model Float.Model.UnpackedFloat

/-! ## rounding -/

/-- A whole number counted in units of `2 ^ k`, rounded; a half goes to the even side. -/
def inUnits (k n : Nat) : Nat :=
  if 2 ^ k < 2 * (n % 2 ^ k) ∨ 2 ^ k = 2 * (n % 2 ^ k) ∧ n / 2 ^ k % 2 = 1 then n / 2 ^ k + 1
  else n / 2 ^ k

theorem inUnits_zero (n : Nat) : inUnits 0 n = n := by
  unfold inUnits
  rw [Nat.pow_zero, Nat.mod_one, Nat.div_one, if_neg (by omega)]

/-- Two bits are kept of what is shifted out: its first digit, and whether there is more. -/
theorem shiftRight_succ (n k : Nat) :
    ExtendedMantissa.ofMantissaAndAccuracy n .exact >>> (k + 1)
      = ⟨n / 2 ^ (k + 1), n / 2 ^ k % 2 != 0, n % 2 ^ k != 0⟩ := by
  induction k with
  | zero =>
    show (⟨n / 2, n % 2 != 0, false⟩ : ExtendedMantissa) = _
    rw [Nat.pow_zero, Nat.mod_one, Nat.div_one, Nat.pow_one]
    rfl
  | succ k ih =>
    have hdiv : n / 2 ^ (k + 1) / 2 = n / 2 ^ (k + 1 + 1) := by
      rw [Nat.div_div_eq_div_mul, Nat.pow_succ 2 (k + 1)]
    have hsticky : (n / 2 ^ k % 2 != 0 || n % 2 ^ k != 0) = (n % 2 ^ (k + 1) != 0) := by
      have hpos : 0 < 2 ^ k := Nat.two_pow_pos k
      rw [Nat.mod_pow_succ]
      rcases Nat.mod_two_eq_zero_or_one (n / 2 ^ k) with h | h <;> rw [h] <;> simp
    show (ExtendedMantissa.ofMantissaAndAccuracy n .exact >>> (k + 1)).shiftRightOne = _
    rw [ih, ExtendedMantissa.shiftRightOne, hdiv, hsticky]

theorem roundedMantissa_shiftRight (n k : Nat) :
    (ExtendedMantissa.ofMantissaAndAccuracy n .exact >>> k).roundedMantissa = inUnits k n := by
  cases k with
  | zero => exact (inUnits_zero n).symm
  | succ k =>
    have hpow : 2 ^ (k + 1) = 2 * 2 ^ k := Nat.pow_succ'
    have hlow : n % 2 ^ k < 2 ^ k := Nat.mod_lt n (Nat.two_pow_pos k)
    rw [shiftRight_succ, inUnits, Nat.mod_pow_succ]
    generalize n / 2 ^ (k + 1) = m
    generalize n % 2 ^ k = low at hlow
    rcases Nat.mod_two_eq_zero_or_one (n / 2 ^ k) with h | h
    · rw [h, if_neg (by omega)]
      cases low != 0 <;> rfl
    · rw [h]
      rcases Nat.eq_zero_or_pos low with rfl | hpos
      · show m + m % 2 = _
        split <;> omega
      · have hsticky : (low != 0) = true := bne_iff_ne.mpr (Nat.ne_of_gt hpos)
        rw [hsticky, if_pos (.inl (by omega))]
        rfl

theorem shift_normal {m : Nat} {e : Int} (hm : 2 ^ 23 ≤ m) (hm' : m < 2 ^ 24) (he : -149 ≤ e) :
    shiftToTargetExponent Format.binary32 m e .exact = (⟨m, false, false⟩, e) := by
  have hlog : m.log2 = 23 := (Nat.log2_eq_iff (by omega)).mpr ⟨hm, hm'⟩
  have hshift : (Format.binary32.targetExponent (totalExponent m e) - e).toNat = 0 := by
    rw [totalExponent, hlog]
    show (max (_ - 24) (-149) - e).toNat = 0
    omega
  unfold shiftToTargetExponent shiftToExponent
  dsimp only
  rw [hshift, Int.natCast_zero, Int.add_zero]
  rfl

theorem shift_carry {e : Int} (he : -149 ≤ e) :
    shiftToTargetExponent Format.binary32 (2 ^ 24) e .exact
      = (⟨2 ^ 23, false, false⟩, e + 1) := by
  have hshift : (Format.binary32.targetExponent (totalExponent (2 ^ 24) e) - e).toNat = 1 := by
    rw [totalExponent, Nat.log2_two_pow]
    show (max (_ - 24) (-149) - e).toNat = 1
    omega
  unfold shiftToTargetExponent shiftToExponent
  dsimp only
  rw [hshift]
  rfl

theorem shift_subnormal {m : Nat} (hm : m < 2 ^ 23) :
    shiftToTargetExponent Format.binary32 m (-149) .exact = (⟨m, false, false⟩, -149) := by
  have hlog : m.log2 < 23 := by
    by_cases h0 : m = 0
    · subst h0
      decide
    · exact (Nat.log2_lt h0).mpr hm
  have hshift : (Format.binary32.targetExponent (totalExponent m (-149)) - (-149)).toNat = 0 := by
    show (max ((m.log2 + 1 + -149 : Int) - 24) (-149) - -149).toNat = 0
    omega
  unfold shiftToTargetExponent shiftToExponent
  dsimp only
  rw [hshift]
  rfl

/-- A mantissa that was rounded up to a power of two takes up one digit more than it had, and is
shifted once more. -/
theorem roundWithAccuracy_eq (sign : Sign) {m : Nat} {e e' : Int} {em : ExtendedMantissa}
    (h : shiftToTargetExponent Format.binary32 m e .exact = (em, e'))
    (hr : 2 ^ 23 ≤ em.roundedMantissa) (hr' : em.roundedMantissa ≤ 2 ^ 24) (he : -149 ≤ e') :
    ∃ d f hd, roundWithAccuracy Format.binary32 sign m e .exact = .finite sign d f hd ∧
      2 ^ 23 ≤ d ∧ d < 2 ^ 24 ∧ e' ≤ f ∧ f ≤ e' + 1 ∧
      d * 2 ^ (f + 149).toNat = em.roundedMantissa * 2 ^ (e' + 149).toNat := by
  unfold roundWithAccuracy
  rw [h]
  dsimp only
  generalize em.roundedMantissa = r at hr hr'
  rcases Nat.lt_or_eq_of_le hr' with hlt | rfl
  · have hpos : r ≠ 0 := by omega
    refine ⟨r, e', Nat.pos_of_ne_zero hpos, ?_, hr, hlt, le_refl _, by omega, rfl⟩
    rw [shift_normal hr hlt he]
    exact dif_neg hpos
  · refine ⟨2 ^ 23, e' + 1, by decide, ?_, le_refl _, by decide, by omega, le_refl _, ?_⟩
    · rw [shift_carry he]
      rfl
    · have hexp : (e' + 1 + 149).toNat = (e' + 149).toNat + 1 := by omega
      rw [hexp, Nat.pow_succ 2 (e' + 149).toNat]
      omega

/-! ## whole numbers with 24 digits -/

/-- The whole number with 24 binary digits that is nearest to `n`. -/
def nearest (n : Nat) : Nat := inUnits (n.log2 - 23) n * 2 ^ (n.log2 - 23)

theorem le_inUnits (k n : Nat) : n / 2 ^ k ≤ inUnits k n ∧ inUnits k n ≤ n / 2 ^ k + 1 := by
  unfold inUnits
  split <;> omega

/-- The first 24 digits of a mantissa that has `k` more of them. -/
theorem two_pow_le_div {m k : Nat} (hm : m ≠ 0) (h : m.log2 = 23 + k) : 2 ^ 23 ≤ m / 2 ^ k := by
  rw [Nat.le_div_iff_mul_le (Nat.two_pow_pos k), ← Nat.pow_add, ← h]
  exact Nat.log2_self_le hm

/-- So many digits are rounded away that 24 are left, or that the last one left stands for
`2 ^ -149`. -/
theorem roundWithAccuracy_cases (s : Sign) {m : Nat} (e : Int) (hm : 2 ^ 23 ≤ m) :
    ∃ k : Nat, e + k = max (m.log2 + e - 23) (-149) ∧
      (inUnits k m = 0 ∧ roundWithAccuracy Format.binary32 s m e .exact = .zero s ∨
        ∃ d f hd, roundWithAccuracy Format.binary32 s m e .exact = .finite s d f hd ∧
          d < 2 ^ 24 ∧ (f = -149 ∨ 2 ^ 23 ≤ d) ∧ -149 ≤ f ∧ f ≤ e + k + 1 ∧
          d * 2 ^ (f + 149).toNat = inUnits k m * 2 ^ (e + k + 149).toNat) := by
  have hm₀ : m ≠ 0 := by omega
  have hlog : 23 ≤ m.log2 := (Nat.le_log2 hm₀).mpr hm
  obtain ⟨k, hk⟩ : ∃ k : Nat, e + k = max (m.log2 + e - 23) (-149) :=
    ⟨(max (m.log2 + e - 23) (-149) - e).toNat, by omega⟩
  have hshift : shiftToTargetExponent Format.binary32 m e .exact
      = (ExtendedMantissa.ofMantissaAndAccuracy m .exact >>> k, e + k) := by
    have hdown : (Format.binary32.targetExponent (totalExponent m e) - e).toNat = k := by
      show (max ((m.log2 + 1 + e : Int) - 24) (-149) - e).toNat = k
      omega
    unfold shiftToTargetExponent shiftToExponent
    dsimp only
    rw [hdown]
  have hhigh : m / 2 ^ k < 2 ^ 24 := by
    have hpow : 2 ^ (m.log2 + 1) ≤ 2 ^ (24 + k) := Nat.pow_le_pow_right (by decide) (by omega)
    rw [Nat.div_lt_iff_lt_mul (Nat.two_pow_pos k), ← Nat.pow_add]
    exact Nat.lt_log2_self.trans_le hpow
  obtain ⟨hr, hr'⟩ := le_inUnits k m
  have hrounded := roundedMantissa_shiftRight m k
  refine ⟨k, hk, ?_⟩
  by_cases hfull : 2 ^ 23 ≤ inUnits k m
  · obtain ⟨d, f, hd, heq, hd₁, hd₂, hf₁, hf₂, hval⟩ := roundWithAccuracy_eq s hshift
      (by omega) (by omega) (by omega)
    rw [hrounded] at hval
    exact .inr ⟨d, f, hd, heq, hd₂, .inr hd₁, by omega, hf₂, hval⟩
  · -- with fewer than 24 digits left, the last one stands for `2 ^ -149`
    have hleast : e + k = -149 := by
      by_contra hne
      have hlow : 2 ^ 23 ≤ m / 2 ^ k := two_pow_le_div hm₀ (by omega)
      omega
    unfold roundWithAccuracy
    rw [hshift]
    dsimp only
    rw [hrounded, hleast, shift_subnormal (by omega)]
    dsimp only
    by_cases hzero : inUnits k m = 0
    · exact .inl ⟨hzero, dif_pos hzero⟩
    · exact .inr ⟨inUnits k m, -149, Nat.pos_of_ne_zero hzero, dif_neg hzero, by omega, .inl rfl,
        by decide, by decide, rfl⟩

theorem inUnits_mono (k : Nat) {m n : Nat} (h : m ≤ n) : inUnits k m ≤ inUnits k n := by
  have hdiv : m / 2 ^ k ≤ n / 2 ^ k := Nat.div_le_div_right h
  rcases Nat.lt_or_eq_of_le hdiv with hlt | heq
  · exact (le_inUnits k m).2.trans (hlt.trans_le (le_inUnits k n).1)
  · have hm : m / 2 ^ k * 2 ^ k + m % 2 ^ k = m := Nat.div_add_mod' m _
    have hn : n / 2 ^ k * 2 ^ k + n % 2 ^ k = n := Nat.div_add_mod' n _
    rw [heq] at hm
    have hmod : m % 2 ^ k ≤ n % 2 ^ k := by omega
    unfold inUnits
    rw [heq]
    split <;> split <;> omega

/-- Zeros behind a number change nothing but the unit. -/
theorem inUnits_mul_two_pow (k j n : Nat) : inUnits (k + j) (n * 2 ^ j) = inUnits k n := by
  have hpos : 0 < 2 ^ j := Nat.two_pow_pos j
  have hdiv : n * 2 ^ j / 2 ^ (k + j) = n / 2 ^ k := by
    rw [Nat.pow_add, Nat.mul_div_mul_right _ _ hpos]
  have hmod : n * 2 ^ j % 2 ^ (k + j) = n % 2 ^ k * 2 ^ j := by
    rw [Nat.pow_add, Nat.mul_mod_mul_right]
  have hlt : 2 ^ (k + j) < 2 * (n % 2 ^ k * 2 ^ j) ↔ 2 ^ k < 2 * (n % 2 ^ k) := by
    rw [Nat.pow_add, ← Nat.mul_assoc]
    exact Nat.mul_lt_mul_right hpos
  have heq : 2 ^ (k + j) = 2 * (n % 2 ^ k * 2 ^ j) ↔ 2 ^ k = 2 * (n % 2 ^ k) := by
    rw [Nat.pow_add, ← Nat.mul_assoc]
    exact Nat.mul_left_inj hpos.ne'
  unfold inUnits
  rw [hdiv, hmod]
  simp only [hlt, heq]

theorem log2_mul_two_pow {n : Nat} (hn : n ≠ 0) (j : Nat) : (n * 2 ^ j).log2 = n.log2 + j := by
  have hpos : 0 < 2 ^ j := Nat.two_pow_pos j
  rw [Nat.log2_eq_iff (Nat.mul_ne_zero hn hpos.ne')]
  constructor
  · rw [Nat.pow_add]
    exact Nat.mul_le_mul_right _ (Nat.log2_self_le hn)
  · have hexp : n.log2 + j + 1 = n.log2 + 1 + j := by omega
    rw [hexp, Nat.pow_add]
    exact Nat.mul_lt_mul_of_pos_right Nat.lt_log2_self hpos

/-- Numbers with few digits stay as they are. -/
theorem nearest_of_few {n : Nat} (h : n < 2 ^ 24) (j : Nat) : nearest (n * 2 ^ j) = n * 2 ^ j := by
  rcases Nat.eq_zero_or_pos n with rfl | hn
  · rw [Nat.zero_mul]
    rfl
  · have hlog : n.log2 < 24 := (Nat.log2_lt hn.ne').mpr h
    have hsum : n * 2 ^ j = n * 2 ^ (j - (n.log2 + j - 23)) * 2 ^ (n.log2 + j - 23) := by
      rw [Nat.mul_assoc, ← Nat.pow_add]
      congr 2
      omega
    have hexact := inUnits_mul_two_pow 0 (n.log2 + j - 23) (n * 2 ^ (j - (n.log2 + j - 23)))
    rw [← hsum, Nat.zero_add, inUnits_zero] at hexact
    rw [nearest, log2_mul_two_pow hn.ne', hexact, ← hsum]

theorem nearest_mul_two_pow (n j : Nat) : nearest (n * 2 ^ j) = nearest n * 2 ^ j := by
  rcases Nat.lt_or_ge n (2 ^ 24) with h | h
  · have hself := nearest_of_few h 0
    rw [Nat.pow_zero, Nat.mul_one] at hself
    rw [nearest_of_few h, hself]
  · have hn : n ≠ 0 := by omega
    have hlog : 24 ≤ n.log2 := (Nat.le_log2 hn).mpr h
    have hunit : n.log2 + j - 23 = n.log2 - 23 + j := by omega
    rw [nearest, log2_mul_two_pow hn, hunit, inUnits_mul_two_pow, Nat.pow_add, ← Nat.mul_assoc,
      nearest]

theorem nearest_of_le {n : Nat} (h : n ≤ 2 ^ 24) : nearest n = n := by
  rcases Nat.lt_or_eq_of_le h with h | rfl
  · have hself := nearest_of_few h 0
    rwa [Nat.pow_zero, Nat.mul_one] at hself
  · decide

theorem two_pow_log2_le_nearest {n : Nat} (hn : n ≠ 0) : 2 ^ n.log2 ≤ nearest n := by
  have hpos : 0 < 2 ^ (n.log2 - 23) := Nat.two_pow_pos _
  have hsum : n.log2 = n.log2 - (n.log2 - 23) + (n.log2 - 23) := by omega
  have hdiv : 2 ^ (n.log2 - (n.log2 - 23)) ≤ n / 2 ^ (n.log2 - 23) := by
    rw [Nat.le_div_iff_mul_le hpos, ← Nat.pow_add, ← hsum]
    exact Nat.log2_self_le hn
  calc 2 ^ n.log2 = 2 ^ (n.log2 - (n.log2 - 23)) * 2 ^ (n.log2 - 23) := by
        rw [← Nat.pow_add, ← hsum]
    _ ≤ inUnits (n.log2 - 23) n * 2 ^ (n.log2 - 23) :=
        Nat.mul_le_mul_right _ (hdiv.trans (le_inUnits _ n).1)

theorem nearest_le_two_pow_log2 (n : Nat) : nearest n ≤ 2 ^ (n.log2 + 1) := by
  have hpos : 0 < 2 ^ (n.log2 - 23) := Nat.two_pow_pos _
  have hsum : n.log2 + 1 = n.log2 + 1 - (n.log2 - 23) + (n.log2 - 23) := by omega
  have hdiv : n / 2 ^ (n.log2 - 23) < 2 ^ (n.log2 + 1 - (n.log2 - 23)) := by
    rw [Nat.div_lt_iff_lt_mul hpos, ← Nat.pow_add, ← hsum]
    exact Nat.lt_log2_self
  calc inUnits (n.log2 - 23) n * 2 ^ (n.log2 - 23)
      ≤ 2 ^ (n.log2 + 1 - (n.log2 - 23)) * 2 ^ (n.log2 - 23) :=
        Nat.mul_le_mul_right _ ((le_inUnits _ n).2.trans hdiv)
    _ = 2 ^ (n.log2 + 1) := by rw [← Nat.pow_add, ← hsum]

theorem nearest_mono {m n : Nat} (h : m ≤ n) : nearest m ≤ nearest n := by
  rcases Nat.eq_zero_or_pos m with rfl | hm
  · exact Nat.zero_le _
  have hn : n ≠ 0 := by omega
  have hlog : m.log2 ≤ n.log2 := (Nat.le_log2 hn).mpr ((Nat.log2_self_le hm.ne').trans h)
  rcases Nat.lt_or_eq_of_le hlog with hlt | heq
  · calc nearest m ≤ 2 ^ (m.log2 + 1) := nearest_le_two_pow_log2 m
      _ ≤ 2 ^ n.log2 := Nat.pow_le_pow_right (by decide) hlt
      _ ≤ nearest n := two_pow_log2_le_nearest hn
  · unfold nearest
    rw [heq]
    exact Nat.mul_le_mul_right _ (inUnits_mono _ h)

/-- A number is rounded up by half a unit at most. -/
theorem two_mul_nearest_le (n : Nat) : 2 * nearest n ≤ 2 * n + 2 ^ (n.log2 - 23) := by
  unfold nearest inUnits
  generalize 2 ^ (n.log2 - 23) = unit
  have hsplit : n / unit * unit + n % unit = n := Nat.div_add_mod' n unit
  split
  · next h =>
    have hhalf : unit ≤ 2 * (n % unit) := h.elim Nat.le_of_lt fun h => Nat.le_of_eq h.1
    rw [Nat.add_mul, Nat.one_mul]
    omega
  · omega

example : nearest 16777219 = 16777220 := by decide

end Single
end FireflyOverlay
