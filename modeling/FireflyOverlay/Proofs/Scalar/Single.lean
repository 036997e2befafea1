import FireflyOverlay.Proofs.Scalar.Rounding
import FireflyOverlay.Scalar.Single

/-!
# Whole numbers as floats

A whole number with more than 24 binary digits is rounded when it is made a float, and is read back
as what it was rounded to.

* `Single.index`       the pixel index of a float, by its sign, mantissa and exponent;
* `toIndex_mono`       of two floats that compare, the lesser one has the lesser index;
* `Single.HasValue`    a float stands for a whole number of units of `2 ^ -149`;
* `readBack`           the index of a whole number that was made a float (`toIndex_ofNat`).
-/

namespace FireflyOverlay
namespace Single

open Float.Model Float.Model.UnpackedFloat

/-! ## indices -/

theorem mantissa_shiftRight (em : ExtendedMantissa) (k : Nat) :
    (em >>> k).mantissa = em.mantissa / 2 ^ k := by
  induction k with
  | zero => exact (Nat.div_one _).symm
  | succ k ih =>
    show (em >>> k).mantissa / 2 = _
    rw [ih, Nat.div_div_eq_div_mul, Nat.pow_succ]

/-- The whole part of a positive float.  Each float is a multiple of `2 ^ -149`. -/
def wholePart (m : Nat) (e : Int) : Nat := m * 2 ^ (e + 149).toNat / 2 ^ 149

theorem roundToInt_positive (m : Nat) {e : Int} (he : -149 ≤ e) :
    roundToInt .positive m e = wholePart m e := by
  show ((((ExtendedMantissa.ofMantissaAndAccuracy (m <<< (e - 0).toNat) .exact)
    >>> (0 - (e - (e - 0).toNat)).toNat).mantissa : Nat) : Int) = _
  rw [mantissa_shiftRight]
  show ((m <<< (e - 0).toNat / 2 ^ (0 - (e - (e - 0).toNat)).toNat : Nat) : Int) = _
  rw [Nat.shiftLeft_eq, wholePart]
  congr 1
  rcases le_or_gt 0 e with h | h
  · have hup : (0 - (e - (e - 0).toNat)).toNat = 0 := by omega
    have hsum : (e + 149).toNat = (e - 0).toNat + 149 := by omega
    rw [hup, hsum, Nat.pow_add, ← Nat.mul_assoc,
      Nat.mul_div_cancel _ (by decide), Nat.pow_zero, Nat.div_one]
  · have hdown : (e - 0).toNat = 0 := by omega
    have hsum : 149 = (0 - (e - (0 : Nat))).toNat + (e + 149).toNat := by omega
    rw [hdown, Nat.pow_zero, Nat.mul_one]
    conv_rhs => rw [hsum, Nat.pow_add, Nat.mul_div_mul_right _ _ (Nat.two_pow_pos _)]

/-- The index that a float stands for: none that is negative, and 32 bits at most. -/
def index : UnpackedFloat → Nat
  | .infinity .positive => 0xffffffff
  | .finite .positive m e _ => min (wholePart m e) 0xffffffff
  | _ => 0

/-- The form that a float is unpacked to. -/
def Canonical : UnpackedFloat → Prop
  | .finite _ m e _ => m < 2 ^ 24 ∧ -149 ≤ e ∧ (e = -149 ∨ 2 ^ 23 ≤ m)
  | _ => True

/-- The first digit of a mantissa is not stored. -/
theorem toNat_one_append (v : BitVec 23) : (1#1 ++ v).toNat = 2 ^ 23 + v.toNat := by
  rw [BitVec.toNat_append, ← Nat.shiftLeft_add_eq_or_of_lt v.isLt]
  rfl

theorem canonical_unpack (b : BitVec 32) : Canonical (.unpack Format.binary32 b) := by
  have hlt : (@unpackMantissa Format.binary32 b).toNat < 2 ^ 23 := BitVec.isLt _
  unfold UnpackedFloat.unpack
  dsimp only
  split
  · split <;> exact trivial
  · split
    · next hzero =>
      split
      · exact trivial
      · rw [hzero]
        exact ⟨by omega, by decide, .inl (by decide)⟩
    · next hzero =>
      have hpos : (@unpackExponent Format.binary32 b).toNat ≠ 0 := fun h =>
        hzero (BitVec.eq_of_toNat_eq h)
      have hfull := toNat_one_append (@unpackMantissa Format.binary32 b)
      refine ⟨?_, ?_, .inr ?_⟩
      · omega
      · show (-149 : Int) ≤ (@unpackExponent Format.binary32 b).toNat - (127 + 23)
        omega
      · omega

theorem lt_iff (x y : Float32) : x < y ↔ x.toModel.unpack.lt y.toModel.unpack = true :=
  decide_eq_true_iff

theorem le_iff (x y : Float32) : x ≤ y ↔ x.toModel.unpack.le y.toModel.unpack = true :=
  decide_eq_true_iff

theorem unpack_zero : (ofNat 0).toModel.unpack = .zero .positive := rfl

theorem toNat_toUInt64 (u : UnpackedFloat) :
    u.toUInt64.toNat = min (u.toInt 0 (2 ^ 64 - 1)).toNat (2 ^ 64 - 1) := by
  show (UInt64.ofNatClamp (u.toInt 0 (2 ^ 64 - 1)).toNat).toNat = _
  unfold UInt64.ofNatClamp
  split
  · next h =>
    have hle : (u.toInt 0 (2 ^ 64 - 1)).toNat ≤ 2 ^ 64 - 1 := Nat.le_pred_of_lt h
    exact (Nat.min_eq_left hle).symm
  · next h =>
    have hle : 2 ^ 64 - 1 ≤ (u.toInt 0 (2 ^ 64 - 1)).toNat :=
      Nat.le_trans (by decide) (Nat.le_of_not_lt h)
    exact (Nat.min_eq_right hle).symm

theorem toIndex_eq (x : Float32) : Scalar.toIndex x = index x.toModel.unpack := by
  have hcanonical : Canonical x.toModel.unpack := canonical_unpack _
  have htrunc : Scalar.trunc x = if x.toModel.unpack.lt (.zero .positive) = true then
      -((min (-x).toUInt64.toNat 0x8000000000000000 : Nat) : Int)
    else ((min x.toModel.unpack.toUInt64.toNat 0x7fffffffffffffff : Nat) : Int) := by
    show (if x < ofNat 0 then _ else _) = _
    simp only [lt_iff, unpack_zero]
    rfl
  rw [Scalar.toIndex, htrunc, toNat_toUInt64]
  generalize x.toModel.unpack = u at hcanonical
  have hneg : ∀ n : Nat, min (-(n : Int)).toNat 0xffffffff = 0 := fun n => by omega
  cases u with
  | notANumber => rfl
  | infinity s => cases s with
    | negative => exact hneg _
    | positive => rfl
  | zero s => rfl
  | finite s m e hm => cases s with
    | negative => exact hneg _
    | positive =>
      have hwhole : (UnpackedFloat.finite .positive m e hm).toInt 0 (2 ^ 64 - 1)
          = wholePart m e := roundToInt_positive m hcanonical.2.1
      have hlt : (UnpackedFloat.finite .positive m e hm).lt (.zero .positive) = false := rfl
      rw [hlt, if_neg Bool.false_ne_true, hwhole]
      show _ = min (wholePart m e) 0xffffffff
      omega

theorem wholePart_mono {m n : Nat} {e f : Int} (hm : m < 2 ^ 24) (he : -149 ≤ e)
    (hn : f = -149 ∨ 2 ^ 23 ≤ n) (h : e < f ∨ e = f ∧ m ≤ n) :
    wholePart m e ≤ wholePart n f := by
  refine Nat.div_le_div_right ?_
  rcases h with h | ⟨rfl, h⟩
  · have hn : 2 ^ 23 ≤ n := hn.resolve_left (by omega)
    have hexp : (e + 149).toNat + 1 ≤ (f + 149).toNat := by omega
    calc m * 2 ^ (e + 149).toNat ≤ 2 ^ 24 * 2 ^ (e + 149).toNat := Nat.mul_le_mul_right _ hm.le
      _ = 2 ^ 23 * 2 ^ ((e + 149).toNat + 1) := by rw [Nat.pow_succ 2 (e + 149).toNat]; omega
      _ ≤ n * 2 ^ (f + 149).toNat := Nat.mul_le_mul hn (Nat.pow_le_pow_right (by decide) hexp)
  · exact Nat.mul_le_mul_right _ h

theorem le_finite {m n : Nat} {e f : Int} (hm : 0 < m) (hn : 0 < n)
    (h : (UnpackedFloat.finite .positive m e hm).le (.finite .positive n f hn) = true) :
    e < f ∨ e = f ∧ m ≤ n := by
  change ((compare e f).then (compare m n)).isLE = true at h
  rcases lt_trichotomy e f with hlt | rfl | hgt
  · exact .inl hlt
  · rw [Int.compare_eq_eq.mpr rfl] at h
    exact .inr ⟨rfl, Nat.isLE_compare.mp h⟩
  · rw [Int.compare_eq_gt.mpr hgt] at h
    cases h

/-- Only positive floats have an index other than 0. -/
theorem index_mono {a b : UnpackedFloat} (ha : Canonical a) (hb : Canonical b)
    (h : a.le b = true) : index a ≤ index b := by
  cases a with
  | notANumber | zero => exact Nat.zero_le _
  | infinity s => cases s with
    | negative => exact Nat.zero_le _
    | positive => cases b with
      | infinity t => cases t with
        | negative => cases h
        | positive => exact Nat.le_refl _
      | notANumber | zero | finite => cases h
  | finite s m e hm => cases s with
    | negative => exact Nat.zero_le _
    | positive => cases b with
      | notANumber | zero => cases h
      | infinity t => cases t with
        | negative => cases h
        | positive => exact Nat.min_le_right _ _
      | finite t n f hn => cases t with
        | negative => cases h
        | positive =>
          have hle := wholePart_mono ha.1 ha.2.1 hb.2.2 (le_finite hm hn h)
          show min (wholePart m e) 0xffffffff ≤ min (wholePart n f) 0xffffffff
          omega

theorem toIndex_mono {x y : Float32} (h : x ≤ y) : Scalar.toIndex x ≤ Scalar.toIndex y := by
  rw [toIndex_eq, toIndex_eq]
  exact index_mono (canonical_unpack _) (canonical_unpack _) ((le_iff x y).mp h)

theorem toIndex_least_le (x y : Float32) :
    Scalar.toIndex (Scalar.least x y) ≤ Scalar.toIndex y := by
  unfold Scalar.least
  split
  · next h => exact toIndex_mono h
  · exact Nat.le_refl _

/-! ## values -/

/-- How many units of `2 ^ -149` a float stands for, if it is zero or has all of its 24 digits. -/
def units? : UnpackedFloat → Option Int
  | .zero _ => some 0
  | .finite s m e _ =>
    if 2 ^ 23 ≤ m ∧ m < 2 ^ 24 ∧ -149 ≤ e ∧ e ≤ 104 then some (s.apply ↑(m * 2 ^ (e + 149).toNat))
    else none
  | _ => none

theorem units?_eq_some {u : UnpackedFloat} {v : Int} (h : units? u = some v) :
    (∃ s, u = .zero s ∧ v = 0) ∨
      ∃ s m e hm, u = .finite s m e hm ∧ (2 ^ 23 ≤ m ∧ m < 2 ^ 24 ∧ -149 ≤ e ∧ e ≤ 104) ∧
        v = s.apply ↑(m * 2 ^ (e + 149).toNat) := by
  cases u with
  | notANumber | infinity => cases h
  | zero s => exact .inl ⟨s, rfl, (Option.some.inj h).symm⟩
  | finite s m e hm =>
    change (if _ then _ else _) = _ at h
    split at h
    · next hbounds => exact .inr ⟨s, m, e, hm, rfl, hbounds, (Option.some.inj h).symm⟩
    · cases h

theorem units?_roundWithAccuracy (s : Sign) {m : Nat} {e : Int} (he : -149 ≤ e) (hm : 2 ^ 23 ≤ m)
    (hmax : m * 2 ^ (e + 149).toNat < 2 ^ 256) :
    units? (roundWithAccuracy Format.binary32 s m e .exact)
      = some (s.apply ↑(nearest (m * 2 ^ (e + 149).toNat))) := by
  have hm₀ : m ≠ 0 := by omega
  have hdigits : 23 ≤ m.log2 := (Nat.le_log2 hm₀).mpr hm
  obtain ⟨k, hk, hcase⟩ := roundWithAccuracy_cases s e hm
  have hlog : m.log2 = 23 + k := by
    clear hcase
    omega
  have hfull : 2 ^ 23 ≤ inUnits k m := (two_pow_le_div hm₀ hlog).trans (le_inUnits k m).1
  rcases hcase with ⟨hzero, -⟩ | ⟨d, f, hd, heq, hd₂, hc, hf₁, hf₂, hval⟩
  · omega
  have hd₁ : 2 ^ 23 ≤ d := by
    rcases hc with rfl | hd₁
    · have hself : d = inUnits k m * 2 ^ (e + k + 149).toNat := (Nat.mul_one d).symm.trans hval
      exact hfull.trans (hself ▸ Nat.le_mul_of_pos_right _ (Nat.two_pow_pos _))
    · exact hd₁
  have hlow : m.log2 + (e + 149).toNat < 256 := by
    rw [← log2_mul_two_pow hm₀]
    exact (Nat.log2_lt (Nat.mul_ne_zero hm₀ (Nat.two_pow_pos _).ne')).mpr hmax
  have hexp : (e + k + 149).toNat = k + (e + 149).toNat := by omega
  have hunit : 23 + k + (e + 149).toNat - 23 = k + (e + 149).toNat := by omega
  rw [heq, nearest, log2_mul_two_pow hm₀, hlog, hunit, inUnits_mul_two_pow, ← hexp, ← hval]
  exact if_pos ⟨hd₁, hd₂, by omega, by omega⟩

/-- Zeros are put behind a number that has not enough digits. -/
theorem units?_round (s : Sign) {n : Nat} {e : Int} (he : -149 ≤ e)
    (hlow : 2 ^ 23 ≤ n * 2 ^ (e + 149).toNat) (hmax : n * 2 ^ (e + 149).toNat < 2 ^ 256) :
    units? (UnpackedFloat.round Format.binary32 s n e)
      = some (s.apply ↑(nearest (n * 2 ^ (e + 149).toNat))) := by
  have hn : n ≠ 0 := fun h => by rw [h, Nat.zero_mul] at hlow; omega
  have hpos : 0 < 2 ^ (e + 149).toNat := Nat.two_pow_pos _
  have hlog : 23 ≤ n.log2 + (e + 149).toNat := by
    rw [← log2_mul_two_pow hn]
    exact (Nat.le_log2 (Nat.mul_ne_zero hn hpos.ne')).mpr hlow
  have htarget : Format.binary32.targetExponent (totalExponent n e) = n.log2 + e - 23 := by
    show max ((n.log2 + 1 + e : Int) - 24) (-149) = _
    omega
  obtain ⟨j, hj⟩ : ∃ j, (e - (n.log2 + e - 23)).toNat = j := ⟨_, rfl⟩
  have hvalue : n * 2 ^ j * 2 ^ (e - j + 149).toNat = n * 2 ^ (e + 149).toNat := by
    rw [Nat.mul_assoc, ← Nat.pow_add]
    congr 2
    omega
  have hdigits : 2 ^ 23 ≤ n * 2 ^ j := by
    have hpow : 2 ^ 23 ≤ 2 ^ (n.log2 + j) := Nat.pow_le_pow_right (by decide) (by omega)
    rw [Nat.pow_add] at hpow
    exact hpow.trans (Nat.mul_le_mul_right _ (Nat.log2_self_le hn))
  unfold UnpackedFloat.round decreaseExponent
  rw [htarget]
  dsimp only
  rw [hj, Nat.shiftLeft_eq, units?_roundWithAccuracy s (by omega) hdigits (by rwa [hvalue]), hvalue]

theorem unpack_pack {s : Sign} {m : Nat} {e : Int} (hm : 2 ^ 23 ≤ m) (hm' : m < 2 ^ 24)
    (he : -149 ≤ e) (he' : e ≤ 104) (hp : 0 < m) :
    (Float32.Model.pack (.finite s m e hp)).unpack = .finite s m e hp := by
  have hlog : m.log2 = 23 := (Nat.log2_eq_iff (by omega)).mpr ⟨hm, hm'⟩
  have hfits : ¬ 2 ^ 8 ≤ (e + 127 + 23).toNat + 1 := by omega
  have hpack : UnpackedFloat.pack Format.binary32 (.finite s m e hp)
      = packComponents Format.binary32 s (.ofNat 8 (e + 127 + 23).toNat) (.ofNat 23 m) := by
    show (if 2 ^ 8 ≤ (e + 127 + 23).toNat + 1 then _
      else if m.log2 + 1 = 24 then _ else _) = _
    rw [if_neg hfits, hlog, if_pos rfl]
    rfl
  have hexp : (BitVec.ofNat 8 (e + 127 + 23).toNat).toNat = (e + 150).toNat := by
    rw [BitVec.toNat_ofNat]
    omega
  have hfull : BitVec.ofNat 8 (e + 127 + 23).toNat ≠ -1#8 := fun h => by
    have hcontra : (BitVec.ofNat 8 (e + 127 + 23).toNat).toNat = 255 := congrArg BitVec.toNat h
    omega
  have hzero : BitVec.ofNat 8 (e + 127 + 23).toNat ≠ 0#8 := fun h => by
    have hcontra : (BitVec.ofNat 8 (e + 127 + 23).toNat).toNat = 0 := congrArg BitVec.toNat h
    omega
  have hmantissa : (1#1 ++ BitVec.ofNat 23 m).toNat = m := by
    rw [toNat_one_append, BitVec.toNat_ofNat]
    omega
  show UnpackedFloat.unpack Format.binary32 (UnpackedFloat.pack Format.binary32 _) = _
  rw [hpack, UnpackedFloat.unpack]
  simp only [unpackMantissa_packComponents, unpackExponent_packComponents,
    unpackSign_packComponents, Sign.ofBitVec_toBitVec]
  rw [if_neg hfull, if_neg hzero]
  simp only [hmantissa, hexp]
  have hback : ((e + 150).toNat : Int) - (Format.binary32.exponentBias + 23) = e := by
    show ((e + 150).toNat : Int) - (127 + 23) = e
    omega
  congr 1

theorem unpack_pack_subnormal {s : Sign} {m : Nat} (hm : m < 2 ^ 23) (hp : 0 < m) :
    (Float32.Model.pack (.finite s m (-149) hp)).unpack = .finite s m (-149) hp := by
  have hlog : m.log2 < 23 := (Nat.log2_lt hp.ne').mpr hm
  have hpack : UnpackedFloat.pack Format.binary32 (.finite s m (-149) hp)
      = packComponents Format.binary32 s 0#8 (.ofNat 23 m) := by
    show (if m.log2 + 1 = 24 then _ else _) = _
    rw [if_neg (by omega)]
  have hmantissa : (BitVec.ofNat 23 m).toNat = m := by
    rw [BitVec.toNat_ofNat]
    omega
  have hnonzero : BitVec.ofNat 23 m ≠ 0#23 := fun h => by
    have hcontra : (BitVec.ofNat 23 m).toNat = 0 := congrArg BitVec.toNat h
    omega
  show UnpackedFloat.unpack Format.binary32 (UnpackedFloat.pack Format.binary32 _) = _
  rw [hpack, UnpackedFloat.unpack]
  simp only [unpackMantissa_packComponents, unpackExponent_packComponents,
    unpackSign_packComponents, Sign.ofBitVec_toBitVec]
  rw [if_neg (by decide), if_pos trivial, dif_neg hnonzero]
  simp only [hmantissa]
  congr 1

theorem unpack_pack_of_canonical {s : Sign} {m : Nat} {e : Int} {hp : 0 < m}
    (h : Canonical (.finite s m e hp)) (he : e ≤ 104) :
    (Float32.Model.pack (.finite s m e hp)).unpack = .finite s m e hp := by
  obtain ⟨hm, he', hc⟩ := h
  by_cases hfull : 2 ^ 23 ≤ m
  · exact unpack_pack hfull hm he' he hp
  · obtain rfl : e = -149 := hc.resolve_right hfull
    exact unpack_pack_subnormal (Nat.lt_of_not_le hfull) hp

theorem unpack_pack_of_units? {u : UnpackedFloat} {v : Int} (h : units? u = some v) :
    (Float32.Model.pack u).unpack = u := by
  rcases units?_eq_some h with ⟨s, rfl, -⟩ | ⟨s, m, e, hm, rfl, ⟨hm₁, hm₂, he₁, he₂⟩, -⟩
  · cases s <;> rfl
  · exact unpack_pack hm₁ hm₂ he₁ he₂ hm

/-- A float that stands for `v` units of `2 ^ -149`. -/
def HasValue (x : Float32) (v : Int) : Prop := units? x.toModel.unpack = some v

instance (x : Float32) (v : Int) : Decidable (HasValue x v) :=
  inferInstanceAs (Decidable (_ = _))

theorem hasValue_of_pack {x : Float32} {u : UnpackedFloat} {v : Int} (hx : x.toModel = .pack u)
    (h : units? u = some v) : HasValue x v := by
  unfold HasValue
  rw [hx, unpack_pack_of_units? h, h]

/-! ## whole numbers -/

theorem normalize_apply (s t : Sign) {n : Nat} (hn : n ≠ 0) (e : Int) :
    UnpackedFloat.normalize Format.binary32 (s.apply n) e t
      = UnpackedFloat.round Format.binary32 s n e := by
  unfold UnpackedFloat.normalize
  cases s with
  | positive =>
    show (match compare (n : Int) 0 with | .lt => _ | .eq => _ | .gt => _) = _
    rw [Int.compare_eq_gt.mpr (by omega)]
    rfl
  | negative =>
    show (match compare (-(n : Int)) 0 with | .lt => _ | .eq => _ | .gt => _) = _
    rw [Int.compare_eq_lt.mpr (by omega)]
    show UnpackedFloat.round Format.binary32 .negative (-(-(n : Int))).toNat e = _
    rw [Int.neg_neg]
    rfl

theorem hasValue_ofNat {n : Nat} (h : n < 2 ^ 64) :
    HasValue (ofNat n) (nearest n * 2 ^ 149 : Nat) := by
  rcases Nat.eq_zero_or_pos n with rfl | hn
  · rfl
  have hword : n.toUInt64.toNat = n := Nat.mod_eq_of_lt h
  have hround : UnpackedFloat.ofUInt64 Format.binary32 n.toUInt64
      = UnpackedFloat.round Format.binary32 .positive n 0 := by
    show UnpackedFloat.normalize Format.binary32 (n.toUInt64.toNat : Int) 0 .positive = _
    rw [hword]
    exact normalize_apply .positive .positive hn.ne' 0
  have hmodel : (ofNat n).toModel
      = .pack (UnpackedFloat.ofUInt64 Format.binary32 n.toUInt64) := by
    have hcast : ofNat n = n.toUInt64.toFloat32 := if_pos h
    rw [hcast]
    rfl
  refine hasValue_of_pack hmodel ?_
  rw [hround, ← nearest_mul_two_pow]
  exact units?_round .positive (by decide) (by show 2 ^ 23 ≤ n * 2 ^ 149; omega)
    (by show n * 2 ^ 149 < 2 ^ 256; omega)

theorem HasValue.toIndex {x : Float32} {n : Nat} (h : HasValue x (n * 2 ^ 149 : Nat)) :
    Scalar.toIndex x = min n 0xffffffff := by
  rw [toIndex_eq]
  rcases units?_eq_some h with ⟨s, hu, hv⟩ | ⟨s, m, e, hm, hu, -, hv⟩
  · have hn : n = 0 := by omega
    rw [hu, hn]
    rfl
  · rw [hu]
    cases s with
    | negative =>
      change _ = -((m * 2 ^ (e + 149).toNat : Nat) : Int) at hv
      have hpos : 0 < m * 2 ^ (e + 149).toNat := Nat.mul_pos hm (Nat.two_pow_pos _)
      omega
    | positive =>
      have hv : n * 2 ^ 149 = m * 2 ^ (e + 149).toNat := Int.natCast_inj.mp hv
      show min (wholePart m e) 0xffffffff = _
      rw [wholePart, ← hv, Nat.mul_div_cancel _ (Nat.two_pow_pos 149)]

/-- What is read back of a whole number that was made a float: it is rounded, and cut to 32 bits. -/
def readBack (n : Nat) : Nat := min (nearest n) 0xffffffff

theorem toIndex_ofNat {n : Nat} (h : n < 2 ^ 64) :
    Scalar.toIndex (Scalar.ofNat n : Float32) = readBack n :=
  (hasValue_ofNat h).toIndex

theorem readBack_mono {m n : Nat} (h : m ≤ n) : readBack m ≤ readBack n :=
  min_le_min_right _ (nearest_mono h)

theorem readBack_of_le {n : Nat} (h : n ≤ 2 ^ 24) : readBack n = n := by
  rw [readBack, nearest_of_le h]
  omega

end Single
end FireflyOverlay
