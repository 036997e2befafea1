import Mathlib.Data.Rat.Floor
import FireflyOverlay.Proofs.Scalar.Arithmetic

/-!
# Whole parts of floats

Every finite float stands for a whole number of units of `2 ^ -149`, the small ones that lack digits
too.  Read this way, floats compare as their amounts, `Single.floor` is exact, and `Single.trunc`
cuts the exact whole part to 64 bits.

* `amount?`, `value?`    what a finite float stands for, in units and as a fraction;
* `compare_amounts`      floats compare as their amounts;
* `amount?_floor`        the floor of a float is the floor of its value;
* `trunc_of_amount?`     the whole part towards zero, cut to 64 bits;
* `FloorOf.trunc_floor`  both together; not a number becomes 0, and what is infinite the index at
                         that end;
* `last_le_trunc_floor_iff`   the floats that reach the last index.
-/

namespace FireflyOverlay
namespace Single

open Float.Model Float.Model.UnpackedFloat

/-! ## amounts -/

/-- How many units of `2 ^ -149` a finite float stands for. -/
def amount? : UnpackedFloat → Option Int
  | .zero _ => some 0
  | .finite s m e _ => some (s.apply ↑(m * 2 ^ (e + 149).toNat))
  | _ => none

/-- The number that a finite float stands for. -/
def value? (x : Float32) : Option Rat :=
  (amount? x.toModel.unpack).map fun v : Int => (v : Rat) / (2 ^ 149 : Nat)

theorem amount?_of_units? {u : UnpackedFloat} {v : Int} (h : units? u = some v) :
    amount? u = some v := by
  rcases units?_eq_some h with ⟨s, rfl, rfl⟩ | ⟨s, m, e, hm, rfl, -, rfl⟩ <;> rfl

theorem amount?_neg {u : UnpackedFloat} {v : Int} (h : amount? u = some v) :
    amount? u.neg = some (-v) := by
  cases u with
  | notANumber | infinity => cases h
  | zero s =>
    obtain rfl : 0 = v := Option.some.inj h
    rfl
  | finite s m e hm =>
    obtain rfl := Option.some.inj h
    cases s with
    | positive => rfl
    | negative => exact congrArg some (Int.neg_neg _).symm

theorem amount?_abs {u : UnpackedFloat} {v : Int} (h : amount? u = some v) :
    amount? u.abs = some (v.natAbs : Int) := by
  cases u with
  | notANumber | infinity => cases h
  | zero s =>
    obtain rfl : 0 = v := Option.some.inj h
    rfl
  | finite s m e hm =>
    obtain rfl := Option.some.inj h
    rw [natAbs_apply]
    rfl

/-- A later exponent, or a greater mantissa with the same one, is a greater amount. -/
theorem amount_lt {m n : Nat} {e f : Int} (hm : m < 2 ^ 24) (he : -149 ≤ e)
    (hn : f = -149 ∨ 2 ^ 23 ≤ n) (h : e < f ∨ e = f ∧ m < n) :
    m * 2 ^ (e + 149).toNat < n * 2 ^ (f + 149).toNat := by
  rcases h with h | ⟨rfl, h⟩
  · have hn : 2 ^ 23 ≤ n := hn.resolve_left (by omega)
    have hexp : (e + 149).toNat + 1 ≤ (f + 149).toNat := by omega
    calc m * 2 ^ (e + 149).toNat < 2 ^ 24 * 2 ^ (e + 149).toNat :=
          Nat.mul_lt_mul_of_pos_right hm (Nat.two_pow_pos _)
      _ = 2 ^ 23 * 2 ^ ((e + 149).toNat + 1) := by rw [Nat.pow_succ 2 (e + 149).toNat]; omega
      _ ≤ n * 2 ^ (f + 149).toNat := Nat.mul_le_mul hn (Nat.pow_le_pow_right (by decide) hexp)
  · exact Nat.mul_lt_mul_of_pos_right h (Nat.two_pow_pos _)

theorem compare_digits {m n : Nat} {e f : Int} (hm : m < 2 ^ 24) (he : -149 ≤ e)
    (hm' : e = -149 ∨ 2 ^ 23 ≤ m) (hn : n < 2 ^ 24) (hf : -149 ≤ f) (hn' : f = -149 ∨ 2 ^ 23 ≤ n) :
    (compare e f).then (compare m n)
      = compare ((m * 2 ^ (e + 149).toNat : Nat) : Int) (n * 2 ^ (f + 149).toNat : Nat) := by
  have hless : e < f ∨ e = f ∧ m < n →
      compare ((m * 2 ^ (e + 149).toNat : Nat) : Int) (n * 2 ^ (f + 149).toNat : Nat) = .lt :=
    fun h => Int.compare_eq_lt.mpr (Int.ofNat_lt.mpr (amount_lt hm he hn' h))
  have hgreater : f < e ∨ f = e ∧ n < m →
      compare ((m * 2 ^ (e + 149).toNat : Nat) : Int) (n * 2 ^ (f + 149).toNat : Nat) = .gt :=
    fun h => Int.compare_eq_gt.mpr (Int.ofNat_lt.mpr (amount_lt hn hf hm' h))
  rcases lt_trichotomy e f with h | rfl | h
  · rw [hless (.inl h), Int.compare_eq_lt.mpr h]
    rfl
  · rw [Int.compare_eq_eq.mpr rfl]
    rcases lt_trichotomy m n with h | rfl | h
    · rw [hless (.inr ⟨rfl, h⟩), Nat.compare_eq_lt.mpr h]
      rfl
    · rw [Int.compare_eq_eq.mpr rfl, Nat.compare_eq_eq.mpr rfl]
      rfl
    · rw [hgreater (.inr ⟨rfl, h⟩), Nat.compare_eq_gt.mpr h]
      rfl
  · rw [hgreater (.inl h), Int.compare_eq_gt.mpr h]
    rfl

theorem swap_compare (v w : Int) : (compare v w).swap = compare (-v) (-w) := by
  rcases lt_trichotomy v w with h | rfl | h
  · rw [Int.compare_eq_lt.mpr h, Int.compare_eq_gt.mpr (by omega : -w < -v)]
    rfl
  · rw [Int.compare_eq_eq.mpr rfl, Int.compare_eq_eq.mpr rfl]
    rfl
  · rw [Int.compare_eq_gt.mpr h, Int.compare_eq_lt.mpr (by omega : -v < -w)]
    rfl

/-- Floats compare as what they stand for. -/
theorem compare_amounts {a b : UnpackedFloat} (ha : Canonical a) (hb : Canonical b) {v w : Int}
    (hv : amount? a = some v) (hw : amount? b = some w) : a.compare b = some (compare v w) := by
  have hpos : ∀ {m : Nat} {e : Int}, 0 < m → (0 : Int) < (m * 2 ^ (e + 149).toNat : Nat) :=
    fun hm => Int.ofNat_lt.mpr (Nat.mul_pos hm (Nat.two_pow_pos _))
  cases a with
  | notANumber | infinity => cases hv
  | zero s =>
    obtain rfl : 0 = v := Option.some.inj hv
    cases b with
    | notANumber | infinity => cases hw
    | zero t =>
      obtain rfl : 0 = w := Option.some.inj hw
      rfl
    | finite t n f hn =>
      obtain rfl := Option.some.inj hw
      cases t with
      | positive => exact congrArg some (Int.compare_eq_lt.mpr (hpos hn)).symm
      | negative => exact congrArg some (Int.compare_eq_gt.mpr (Int.neg_neg_of_pos (hpos hn))).symm
  | finite s m e hm =>
    obtain rfl := Option.some.inj hv
    cases b with
    | notANumber | infinity => cases hw
    | zero t =>
      obtain rfl : 0 = w := Option.some.inj hw
      cases s with
      | positive => exact congrArg some (Int.compare_eq_gt.mpr (hpos hm)).symm
      | negative => exact congrArg some (Int.compare_eq_lt.mpr (Int.neg_neg_of_pos (hpos hm))).symm
    | finite t n f hn =>
      obtain rfl := Option.some.inj hw
      have hdigits := compare_digits ha.1 ha.2.1 ha.2.2 hb.1 hb.2.1 hb.2.2
      cases s with
      | negative => cases t with
        | negative =>
          show some ((compare e f).then (compare m n)).swap = _
          rw [hdigits]
          exact congrArg some (swap_compare _ _)
        | positive =>
          have hneg := Int.neg_neg_of_pos (hpos (e := e) hm)
          exact congrArg some (Int.compare_eq_lt.mpr (hneg.trans (hpos hn))).symm
      | positive => cases t with
        | negative =>
          have hneg := Int.neg_neg_of_pos (hpos (e := f) hn)
          exact congrArg some (Int.compare_eq_gt.mpr (hneg.trans (hpos hm))).symm
        | positive => exact congrArg some hdigits

variable {x y : Float32} {v w : Int}

theorem canonical (x : Float32) : Canonical x.toModel.unpack := canonical_unpack _

theorem lt_iff_amount (hx : amount? x.toModel.unpack = some v)
    (hy : amount? y.toModel.unpack = some w) : x < y ↔ v < w := by
  rw [lt_iff, UnpackedFloat.lt, compare_amounts (canonical x) (canonical y) hx hy,
    ← Int.compare_eq_lt]
  cases compare v w <;> decide

theorem beq_iff_amount (hx : amount? x.toModel.unpack = some v)
    (hy : amount? y.toModel.unpack = some w) : (x == y) = true ↔ v = w := by
  show x.toModel.unpack.beq y.toModel.unpack = true ↔ v = w
  rw [UnpackedFloat.beq, compare_amounts (canonical x) (canonical y) hx hy,
    ← Int.compare_eq_eq]
  cases compare v w <;> decide

theorem amount?_of_hasValue (h : HasValue x v) : amount? x.toModel.unpack = some v :=
  amount?_of_units? h

/-! ## signs -/

/-- The last exponent is kept for what is infinite and for what is not a number. -/
theorem exponent_le_of_unpack {b : BitVec 32} {s : Sign} {m : Nat} {e : Int} {hm : 0 < m}
    (h : UnpackedFloat.unpack Format.binary32 b = .finite s m e hm) : e ≤ 104 := by
  have hlt : (@unpackExponent Format.binary32 b).toNat < 2 ^ 8 := BitVec.isLt _
  unfold UnpackedFloat.unpack at h
  dsimp only at h
  split at h
  · split at h <;> cases h
  · next hfull =>
    have hne : (@unpackExponent Format.binary32 b).toNat ≠ 255 := fun hcontra =>
      hfull (BitVec.eq_of_toNat_eq hcontra)
    split at h
    · next hzero =>
      split at h
      · cases h
      · injection h with _ _ he
        rw [← he, hzero]
        decide
    · injection h with _ _ he
      have hexp : ((@unpackExponent Format.binary32 b).toNat : Int) - (127 + 23) = e := he
      omega

/-- Packing keeps a float that was unpacked with another sign. -/
theorem unpack_pack_sign {x : Float32} {s t : Sign} {m : Nat} {e : Int} {hm : 0 < m}
    (h : x.toModel.unpack = .finite s m e hm) :
    (Float32.Model.pack (.finite t m e hm)).unpack = .finite t m e hm := by
  have hcanonical : Canonical x.toModel.unpack := canonical x
  rw [h] at hcanonical
  exact unpack_pack_of_canonical (s := t) hcanonical (exponent_le_of_unpack h)

theorem unpack_neg (x : Float32) : (-x).toModel.unpack = x.toModel.unpack.neg := by
  show (Float32.Model.pack x.toModel.unpack.neg).unpack = _
  cases hu : x.toModel.unpack with
  | notANumber => rfl
  | infinity s => cases s <;> rfl
  | zero s => cases s <;> rfl
  | finite s m e hm => exact unpack_pack_sign hu

theorem unpack_abs (x : Float32) : x.abs.toModel.unpack = x.toModel.unpack.abs := by
  show (Float32.Model.pack x.toModel.unpack.abs).unpack = _
  cases hu : x.toModel.unpack with
  | notANumber => rfl
  | infinity s => cases s <;> rfl
  | zero s => cases s <;> rfl
  | finite s m e hm => exact unpack_pack_sign hu

theorem amount?_neg_float (h : amount? x.toModel.unpack = some v) :
    amount? (-x).toModel.unpack = some (-v) := unpack_neg x ▸ amount?_neg h

/-! ## whole parts -/

theorem toInt_of_amount? {u : UnpackedFloat} (hu : Canonical u) (h : amount? u = some v)
    (hv : 0 ≤ v) (lo hi : Int) : u.toInt lo hi = v / 2 ^ 149 := by
  cases u with
  | notANumber | infinity => cases h
  | zero s =>
    obtain rfl : 0 = v := Option.some.inj h
    rfl
  | finite s m e hm =>
    obtain rfl := Option.some.inj h
    cases s with
    | negative =>
      change 0 ≤ -((m * 2 ^ (e + 149).toNat : Nat) : Int) at hv
      have hpos : 0 < m * 2 ^ (e + 149).toNat := Nat.mul_pos hm (Nat.two_pow_pos _)
      omega
    | positive =>
      show roundToInt .positive m e = _
      rw [roundToInt_positive m hu.2.1, wholePart, Int.natCast_ediv]
      rfl

theorem toNat_toUInt32 (u : UnpackedFloat) :
    u.toUInt32.toNat = min (u.toInt 0 (2 ^ 32 - 1)).toNat (2 ^ 32 - 1) := by
  show (UInt32.ofNatClamp (u.toInt 0 (2 ^ 32 - 1)).toNat).toNat = _
  unfold UInt32.ofNatClamp
  split
  · next h =>
    have hle : (u.toInt 0 (2 ^ 32 - 1)).toNat ≤ 2 ^ 32 - 1 := Nat.le_pred_of_lt h
    exact (Nat.min_eq_left hle).symm
  · next h =>
    have hle : 2 ^ 32 - 1 ≤ (u.toInt 0 (2 ^ 32 - 1)).toNat :=
      Nat.le_trans (by decide) (Nat.le_of_not_lt h)
    exact (Nat.min_eq_right hle).symm

theorem toFloat32_eq_ofNat (k : UInt32) : k.toFloat32 = ofNat k.toNat := by
  have hk : k.toNat < 2 ^ 32 := k.toNat_lt
  have hword : k.toNat.toUInt64.toNat = k.toNat := Nat.mod_eq_of_lt (by omega)
  have hcast : ofNat k.toNat = k.toNat.toUInt64.toFloat32 := if_pos (by omega)
  rw [hcast]
  show (⟨.pack (UnpackedFloat.ofNat Format.binary32 k.toNat)⟩ : Float32)
    = ⟨.pack (UnpackedFloat.ofNat Format.binary32 k.toNat.toUInt64.toNat)⟩
  rw [hword]

/-- The whole part of a float below `2 ^ 23` is a float. -/
theorem hasValue_whole (h : amount? x.toModel.unpack = some v) (hv : 0 ≤ v) (hv' : v < 2 ^ 172) :
    HasValue x.toUInt32.toFloat32 (v / 2 ^ 149 * 2 ^ 149) := by
  have hint : x.toModel.unpack.toInt 0 (2 ^ 32 - 1) = v / 2 ^ 149 :=
    toInt_of_amount? (canonical x) h hv _ _
  have hindex : x.toUInt32.toNat = (v / 2 ^ 149).toNat := by
    show x.toModel.unpack.toUInt32.toNat = _
    rw [toNat_toUInt32, hint]
    omega
  have hvalue := hasValue_ofNat (n := (v / 2 ^ 149).toNat) (by omega)
  rw [nearest_of_le (by omega)] at hvalue
  rw [toFloat32_eq_ofNat, hindex]
  have hback : (((v / 2 ^ 149).toNat * 2 ^ 149 : Nat) : Int) = v / 2 ^ 149 * 2 ^ 149 := by omega
  rwa [hback] at hvalue

/-- A float of `2 ^ 23` or more is whole. -/
theorem dvd_of_large (h : amount? x.toModel.unpack = some v) (hv : 2 ^ 172 ≤ v.natAbs) :
    (2 ^ 149 : Int) ∣ v := by
  have hcanonical := canonical x
  generalize x.toModel.unpack = u at *
  cases u with
  | notANumber | infinity => cases h
  | zero s =>
    obtain rfl : 0 = v := Option.some.inj h
    exact dvd_zero _
  | finite s m e hm =>
    obtain rfl := Option.some.inj h
    rw [natAbs_apply] at hv
    have hexp : 149 ≤ (e + 149).toNat := by
      by_contra hlt
      have hpow : 2 ^ (e + 149).toNat ≤ 2 ^ 148 := Nat.pow_le_pow_right (by decide) (by omega)
      have hlt : m * 2 ^ (e + 149).toNat < 2 ^ 24 * 2 ^ 148 :=
        Nat.mul_lt_mul_of_lt_of_le hcanonical.1 hpow (by decide)
      omega
    have hdvd : 2 ^ 149 ∣ m * 2 ^ (e + 149).toNat :=
      Dvd.dvd.mul_left (Nat.pow_dvd_pow 2 hexp) m
    have hcast : (2 ^ 149 : Int) ∣ ((m * 2 ^ (e + 149).toNat : Nat) : Int) :=
      Int.natCast_dvd_natCast.mpr hdvd
    cases s with
    | positive => exact hcast
    | negative => exact (Int.dvd_neg).mpr hcast

/-- A whole number of few digits is not rounded. -/
theorem rounded_whole {n : Int} (h : n.natAbs < 2 ^ 24) : rounded (n * 2 ^ 149) = n * 2 ^ 149 := by
  rcases eq_or_ne n 0 with rfl | hn
  · rfl
  · obtain ⟨s, k, -, rfl⟩ := exists_apply n hn
    rw [natAbs_apply] at h
    have hvalue : s.apply (k : Int) * 2 ^ 149 = s.apply ((k * 2 ^ 149 : Nat) : Int) := by
      rw [apply_mul, Nat.cast_mul]
      rfl
    rw [hvalue, rounded_apply, nearest_of_few h]

theorem amount?_ofNat_zero : amount? (ofNat 0).toModel.unpack = some 0 := rfl

theorem amount?_limit : amount? (powerOfTwo 23).toModel.unpack = some (2 ^ 172) := by
  decide +kernel

/-- **The floor of a float is the floor of its value.** -/
theorem amount?_floor (h : amount? x.toModel.unpack = some v) :
    amount? (floor x).toModel.unpack = some (v / 2 ^ 149 * 2 ^ 149) := by
  have habs : amount? x.abs.toModel.unpack = some (v.natAbs : Int) := unpack_abs x ▸ amount?_abs h
  have hlimit : x.abs < powerOfTwo 23 ↔ (v.natAbs : Int) < 2 ^ 172 :=
    lt_iff_amount habs amount?_limit
  have hsign : x < ofNat 0 ↔ v < 0 := lt_iff_amount h amount?_ofNat_zero
  unfold floor
  by_cases hsmall : (v.natAbs : Int) < 2 ^ 172
  · rw [if_pos (hlimit.mpr hsmall)]
    dsimp only
    by_cases hneg : v < 0
    · -- the whole part of a negative float is above it, unless the float is whole
      rw [if_pos (hsign.mpr hneg)]
      have hwhole : HasValue (-(-x).toUInt32.toFloat32) (-(-v / 2 ^ 149 * 2 ^ 149)) := by
        have hpart := hasValue_whole (amount?_neg_float h) (by omega) (by omega)
        refine hasValue_of_pack rfl (units?_neg hpart)
      generalize -(-x).toUInt32.toFloat32 = whole at hwhole
      have hamount := amount?_of_hasValue hwhole
      by_cases heq : v = -(-v / 2 ^ 149 * 2 ^ 149)
      · rw [if_pos ((beq_iff_amount h hamount).mpr heq), h]
        congr 1
        omega
      · rw [if_neg (mt (beq_iff_amount h hamount).mp heq),
          if_pos ((lt_iff_amount h hamount).mpr (by omega))]
        have hone : HasValue (ofNat 1) (2 ^ 149) := hasValue_ofNat (n := 1) (by decide)
        have hsub := hwhole.sub hone (by omega) (by omega)
        have hbelow : -(-v / 2 ^ 149 * 2 ^ 149) - 2 ^ 149 = v / 2 ^ 149 * 2 ^ 149 := by omega
        rw [hbelow, rounded_whole (by omega)] at hsub
        exact amount?_of_hasValue hsub
    · rw [if_neg (mt hsign.mp hneg)]
      have hwhole := hasValue_whole h (by omega) (by omega)
      generalize x.toUInt32.toFloat32 = whole at hwhole
      have hamount := amount?_of_hasValue hwhole
      split
      · next heq =>
        rw [h, ← (beq_iff_amount h hamount).mp heq]
      · rw [if_neg (mt (lt_iff_amount h hamount).mp (by omega)), hamount]
  · have hdvd := dvd_of_large h (by omega)
    rw [if_neg (mt hlimit.mp hsmall), h, Int.ediv_mul_cancel hdvd]

/-- What is infinite, and what is not a number, has no floor but itself. -/
theorem floor_of_amount?_eq_none (h : amount? x.toModel.unpack = none) : floor x = x := by
  refine if_neg fun hlt => ?_
  rw [lt_iff, unpack_abs] at hlt
  generalize x.toModel.unpack = u at *
  cases u with
  | notANumber | infinity => cases hlt
  | zero | finite => cases h

/-! ## cutting to 64 bits -/

/-- The integer of 64 bits with a sign that is next to `n`. -/
def cut64 (n : Int) : Int := max (-2 ^ 63) (min n (2 ^ 63 - 1))

/-- A float is cut towards zero, and then to 64 bits. -/
theorem trunc_of_amount? (h : amount? x.toModel.unpack = some v) :
    trunc x = cut64 (v.tdiv (2 ^ 149)) := by
  have hsign : x < ofNat 0 ↔ v < 0 := lt_iff_amount h amount?_ofNat_zero
  have hpart : ∀ {y : Float32} {w : Int}, amount? y.toModel.unpack = some w → 0 ≤ w →
      y.toUInt64.toNat = min (w / 2 ^ 149).toNat (2 ^ 64 - 1) := fun {y w} hy hw => by
    have hint : y.toModel.unpack.toInt 0 (2 ^ 64 - 1) = w / 2 ^ 149 :=
      toInt_of_amount? (canonical y) hy hw _ _
    show y.toModel.unpack.toUInt64.toNat = _
    rw [toNat_toUInt64, hint]
  unfold trunc cut64
  by_cases hneg : v < 0
  · have hquotient : v.tdiv (2 ^ 149) = -(-v / 2 ^ 149) := by
      rw [← Int.tdiv_eq_ediv_of_nonneg (by omega), Int.neg_tdiv, Int.neg_neg]
    rw [if_pos (hsign.mpr hneg), hpart (amount?_neg_float h) (by omega), hquotient]
    omega
  · rw [if_neg (mt hsign.mp hneg), hpart h (by omega), Int.tdiv_eq_ediv_of_nonneg (by omega)]
    omega

theorem trunc_of_notANumber (h : x.toModel.unpack = .notANumber) : trunc x = 0 := by
  have hlt : ¬ x < ofNat 0 := by
    rw [lt_iff, h]
    exact Bool.false_ne_true
  have hindex : x.toUInt64.toNat = 0 := by
    show x.toModel.unpack.toUInt64.toNat = 0
    rw [h]
    rfl
  rw [trunc, if_neg hlt, hindex]
  rfl

theorem trunc_of_infinity {s : Sign} (h : x.toModel.unpack = .infinity s) :
    trunc x = cut64 (s.apply (2 ^ 64)) := by
  cases s with
  | negative =>
    have hlt : x < ofNat 0 := by
      rw [lt_iff, h]
      rfl
    have hindex : (-x).toUInt64.toNat = 2 ^ 64 - 1 := by
      show (-x).toModel.unpack.toUInt64.toNat = _
      rw [unpack_neg, h]
      rfl
    rw [trunc, if_pos hlt, hindex]
    rfl
  | positive =>
    have hlt : ¬ x < ofNat 0 := by
      rw [lt_iff, h]
      exact Bool.false_ne_true
    have hindex : x.toUInt64.toNat = 2 ^ 64 - 1 := by
      show x.toModel.unpack.toUInt64.toNat = _
      rw [h]
      rfl
    rw [trunc, if_neg hlt, hindex]
    rfl

/-! ## the integer below a float -/

theorem trunc_floor {q : Rat} (h : value? x = some q) : trunc (floor x) = cut64 ⌊q⌋ := by
  obtain ⟨v, hv, rfl⟩ := Option.map_eq_some_iff.mp h
  have hquotient : (v / 2 ^ 149 * 2 ^ 149).tdiv (2 ^ 149) = v / 2 ^ 149 :=
    Int.mul_tdiv_cancel _ (by decide)
  rw [trunc_of_amount? (amount?_floor hv), hquotient, Rat.floor_intCast_div_natCast]
  rfl

/-- The integers that a float is read as: the floor of its value, 0 if it is not a number, and any
integer that 64 bits do not hold if it is infinite. -/
inductive FloorOf (x : Float32) : Int → Prop
  | value {q : Rat} (h : value? x = some q) : FloorOf x ⌊q⌋
  | notANumber (h : x.toModel.unpack = .notANumber) : FloorOf x 0
  | above {n : Int} (h : x.toModel.unpack = .infinity .positive) (hn : 2 ^ 63 ≤ n) : FloorOf x n
  | below {n : Int} (h : x.toModel.unpack = .infinity .negative) (hn : n < -2 ^ 63) : FloorOf x n

/-- Every float is read as an integer, -/
theorem exists_floorOf (x : Float32) : ∃ n, FloorOf x n := by
  cases hu : x.toModel.unpack with
  | notANumber => exact ⟨0, .notANumber hu⟩
  | infinity s => cases s with
    | negative => exact ⟨-2 ^ 64, .below hu (by decide)⟩
    | positive => exact ⟨2 ^ 64, .above hu (by decide)⟩
  | zero s => exact ⟨_, .value (q := (0 : Int) / (2 ^ 149 : Nat)) (by rw [value?, hu]; rfl)⟩
  | finite s m e hm => exact ⟨_, .value (by rw [value?, hu]; rfl)⟩

/-- which is then cut to 64 bits. -/
theorem FloorOf.trunc_floor {n : Int} (h : FloorOf x n) : trunc (floor x) = cut64 n := by
  have hself : amount? x.toModel.unpack = none → floor x = x := floor_of_amount?_eq_none
  cases h with
  | value h => exact Single.trunc_floor h
  | notANumber h => rw [hself (by rw [h]; rfl), trunc_of_notANumber h]; rfl
  | above h hn =>
    have hcut : cut64 (2 ^ 64) = cut64 n := by
      unfold cut64
      omega
    rw [hself (by rw [h]; rfl), trunc_of_infinity h, ← hcut]
    rfl
  | below h hn =>
    have hcut : cut64 (-2 ^ 64) = cut64 n := by
      unfold cut64
      omega
    rw [hself (by rw [h]; rfl), trunc_of_infinity h, ← hcut]
    rfl

/-- No float lies between the last index of 64 bits and the number after it. -/
theorem amount_gap (h : amount? x.toModel.unpack = some v) (hv : (2 ^ 63 - 1) * 2 ^ 149 ≤ v) :
    2 ^ 212 ≤ v := by
  have hcanonical := canonical x
  generalize x.toModel.unpack = u at *
  cases u with
  | notANumber | infinity => cases h
  | zero s =>
    obtain rfl : 0 = v := Option.some.inj h
    omega
  | finite s m e hm =>
    obtain rfl := Option.some.inj h
    cases s with
    | negative =>
      change _ ≤ -((m * 2 ^ (e + 149).toNat : Nat) : Int) at hv
      omega
    | positive =>
      have hv : (2 ^ 63 - 1) * 2 ^ 149 ≤ m * 2 ^ (e + 149).toNat := Int.ofNat_le.mp hv
      refine Int.ofNat_le.mpr (show 2 ^ 212 ≤ m * 2 ^ (e + 149).toNat from ?_)
      obtain ⟨hm₂, he, hc⟩ := hcanonical
      have hexp : 189 ≤ (e + 149).toNat := by
        by_contra hlt
        have hpow : 2 ^ (e + 149).toNat ≤ 2 ^ 188 := Nat.pow_le_pow_right (by decide) (by omega)
        have hle : m * 2 ^ (e + 149).toNat ≤ (2 ^ 24 - 1) * 2 ^ 188 :=
          Nat.mul_le_mul (Nat.le_pred_of_lt hm₂) hpow
        omega
      have hfull : 2 ^ 23 ≤ m := hc.resolve_left (by omega)
      calc 2 ^ 212 = 2 ^ 23 * 2 ^ 189 := by norm_num
        _ ≤ m * 2 ^ (e + 149).toNat :=
          Nat.mul_le_mul hfull (Nat.pow_le_pow_right (by decide) hexp)

theorem amount?_ofNat_two_pow : amount? (ofNat (2 ^ 63)).toModel.unpack = some (2 ^ 212) :=
  amount?_of_hasValue (hasValue_ofNat (n := 2 ^ 63) (by decide))

theorem le_iff_amount (hx : amount? x.toModel.unpack = some v)
    (hy : amount? y.toModel.unpack = some w) : x ≤ y ↔ v ≤ w := by
  rw [le_iff, UnpackedFloat.le, compare_amounts (canonical x) (canonical y) hx hy,
    ← not_lt, ← Int.compare_eq_gt]
  cases compare v w <;> decide

/-- The floor of a float reaches the last index of 64 bits exactly if the float lies beyond it. -/
theorem last_le_trunc_floor_iff (x : Float32) :
    2 ^ 63 - 1 ≤ trunc (floor x) ↔ ofNat (2 ^ 63) ≤ x := by
  obtain ⟨n, hn⟩ := exists_floorOf x
  rw [hn.trunc_floor]
  cases hn with
  | value h =>
    obtain ⟨v, hv, rfl⟩ := Option.map_eq_some_iff.mp h
    rw [Rat.floor_intCast_div_natCast, le_iff_amount amount?_ofNat_two_pow hv]
    unfold cut64
    constructor
    · intro hle
      exact amount_gap hv (by omega)
    · intro hle
      omega
  | notANumber h =>
    rw [le_iff, h]
    decide
  | above h hn =>
    rw [le_iff, h]
    unfold cut64
    refine iff_of_true (by omega) ?_
    decide
  | below h hn =>
    rw [le_iff, h]
    unfold cut64
    refine iff_of_false (by omega) ?_
    decide

end Single
end FireflyOverlay
