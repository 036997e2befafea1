import FireflyOverlay.Proofs.Drawing.Texels
import FireflyOverlay.Proofs.Scalar.Exact

/-!
# Mixed texels

In exact arithmetic a mixed color lies between the four texels around its place, on every side of
the image and however far away the place is, and at the center of a texel it is this texel.

* `Color.channel_mix`    a channel of a mixed color is the same mean of the two channels;
* `mix_between`          a mean lies between the least and the greatest;
* `Image.fraction_unit`  the parts that are mixed;
* `Image.sample_center`  at the centers of the texels both filters give the texel;
* `mixingLaws`           all of it, for an image with texels.
-/

namespace FireflyOverlay

open Scalar

/-! ## means of colors -/

theorem mix_between {x y t : Rat} (h : 0 ≤ t) (h' : t ≤ 1) :
    min x y ≤ x + (y - x) * t ∧ x + (y - x) * t ≤ max x y := by
  have hsum : x + (y - x) * t = (1 - t) * x + t * y := by ring
  have hone : ∀ z : Rat, (1 - t) * z + t * z = z := fun z => by ring
  have ht : 0 ≤ 1 - t := sub_nonneg.mpr h'
  rw [hsum]
  constructor
  · calc min x y = (1 - t) * min x y + t * min x y := (hone _).symm
      _ ≤ (1 - t) * x + t * y := add_le_add (mul_le_mul_of_nonneg_left (min_le_left x y) ht)
          (mul_le_mul_of_nonneg_left (min_le_right x y) h)
  · calc (1 - t) * x + t * y ≤ (1 - t) * max x y + t * max x y :=
          add_le_add (mul_le_mul_of_nonneg_left (le_max_left x y) ht)
            (mul_le_mul_of_nonneg_left (le_max_right x y) h)
      _ = max x y := hone _

namespace Color

/-- The four numbers of a color. -/
def channels : List (Color Rat → Rat) := [Color.r, Color.g, Color.b, Color.a]

variable {c : Color Rat → Rat}

theorem channel_mix (hc : c ∈ channels) (k l : Color Rat) (t : Rat) :
    c (k.mix l t) = c k + (c l - c k) * t := by
  simp only [channels, List.mem_cons, List.not_mem_nil, or_false] at hc
  rcases hc with rfl | rfl | rfl | rfl <;> rfl

theorem channel_mix_between (hc : c ∈ channels) (k l : Color Rat) {t : Rat} (h : 0 ≤ t)
    (h' : t ≤ 1) : min (c k) (c l) ≤ c (k.mix l t) ∧ c (k.mix l t) ≤ max (c k) (c l) :=
  channel_mix hc k l t ▸ mix_between h h'

theorem ext_channels {k l : Color Rat} (h : ∀ c ∈ channels, c k = c l) : k = l := by
  obtain ⟨r, g, b, a⟩ := k
  have hr := h Color.r (by simp [channels])
  have hg := h Color.g (by simp [channels])
  have hb := h Color.b (by simp [channels])
  have ha := h Color.a (by simp [channels])
  simp only at hr hg hb ha
  subst hr hg hb ha
  rfl

theorem mix_zero (k l : Color Rat) : k.mix l 0 = k :=
  ext_channels fun c hc => by rw [channel_mix hc, mul_zero, add_zero]

/-- The channel of a byte is a part of 1. -/
theorem channel_ofPixel_unit (hc : c ∈ channels) (p : Pixel) :
    0 ≤ c (ofPixel p) ∧ c (ofPixel p) ≤ 1 := by
  have hbyte : ∀ b : UInt8, 0 ≤ (ofByte b : Rat) ∧ (ofByte b : Rat) ≤ 1 := fun b => by
    have hlt : (b.toNat : Rat) ≤ 255 := by exact_mod_cast Nat.le_of_lt_succ b.toNat_lt
    have hvalue : (ofByte b : Rat) = (b.toNat : Rat) / 255 := rfl
    rw [hvalue]
    constructor
    · positivity
    · rw [div_le_one (by norm_num)]
      exact hlt
  simp only [channels, List.mem_cons, List.not_mem_nil, or_false] at hc
  rcases hc with rfl | rfl | rfl | rfl <;> exact hbyte _

end Color

/-! ## the texels around a place -/

namespace Image

theorem cornerIndex_eq_floor (x : Rat) : cornerIndex x = ⌊x - 1 / 2⌋ := Exact.trunc_intCast _

theorem fraction_unit (x : Rat) : 0 ≤ fraction x ∧ fraction x ≤ 1 := by
  have hfraction : fraction x = Int.fract (x - 1 / 2) := rfl
  rw [hfraction]
  exact ⟨Int.fract_nonneg _, (Int.fract_lt_one _).le⟩

variable {m : Image}

/-- At the center of the texel `i` of `n`. -/
def center (i : Int) (n : Nat) : Rat := (i + 1 / 2) / n

theorem center_mul {n : Nat} (hn : 0 < n) (i : Int) : center i n * n = i + 1 / 2 :=
  div_mul_cancel₀ _ (Nat.cast_ne_zero.mpr hn.ne')

/-- Nothing is mixed in at the center of a texel. -/
theorem cornerIndex_center (i : Int) :
    cornerIndex (i + 1 / 2 : Rat) = i ∧ fraction (i + 1 / 2 : Rat) = 0 := by
  have hshift : (i + 1 / 2 - 1 / 2 : Rat) = i := add_sub_cancel_right _ _
  constructor
  · rw [cornerIndex_eq_floor, hshift, Int.floor_intCast]
  · have hfraction : fraction (i + 1 / 2 : Rat) = Int.fract (i + 1 / 2 - 1 / 2 : Rat) := rfl
    rw [hfraction, hshift, Int.fract_intCast]

/-- **At the center of a texel both filters give the texel.** -/
theorem sample_center (hw : 0 < m.width) (hh : 0 < m.height) (filter : TextureFilter) (i j : Int) :
    m.sample filter (center i m.width) (center j m.height) = m.texel i j := by
  have hx : center i m.width * ofNat m.width = i + 1 / 2 := center_mul hw i
  have hy : center j m.height * ofNat m.height = j + 1 / 2 := center_mul hh j
  unfold sample
  dsimp only
  rw [hx, hy]
  cases filter with
  | nearest =>
    have hfloor : ∀ i : Int, trunc (floor (i + 1 / 2 : Rat)) = i := fun i => by
      have hhalf : ⌊(i + 1 / 2 : Rat)⌋ = i := by
        rw [Int.floor_eq_iff]
        constructor <;> linarith
      exact (Exact.trunc_intCast _).trans hhalf
    show m.texel (trunc (floor (i + 1 / 2 : Rat))) (trunc (floor (j + 1 / 2 : Rat))) = _
    rw [hfloor, hfloor]
  | linear =>
    show m.sampleLinear (i + 1 / 2 : Rat) (j + 1 / 2 : Rat) = _
    rw [sampleLinear_eq, (cornerIndex_center i).1, (cornerIndex_center i).2,
      (cornerIndex_center j).1, (cornerIndex_center j).2, Color.mix_zero, Color.mix_zero]

/-- **A mixed color lies between the texels around it.** -/
theorem sample_between {c : Color Rat → Rat} (hc : c ∈ Color.channels) (u v : Rat) {i j : Int}
    (hi : i = ⌊u * m.width - 1 / 2⌋) (hj : j = ⌊v * m.height - 1 / 2⌋) :
    min (min (c (m.texel i j)) (c (m.texel (i + 1) j)))
        (min (c (m.texel i (j + 1))) (c (m.texel (i + 1) (j + 1)))) ≤ c (m.sample .linear u v) ∧
      c (m.sample .linear u v) ≤ max (max (c (m.texel i j)) (c (m.texel (i + 1) j)))
        (max (c (m.texel i (j + 1))) (c (m.texel (i + 1) (j + 1)))) := by
  have hx : cornerIndex (u * ofNat m.width) = i := (cornerIndex_eq_floor _).trans hi.symm
  have hy : cornerIndex (v * ofNat m.height) = j := (cornerIndex_eq_floor _).trans hj.symm
  obtain ⟨hx0, hx1⟩ := fraction_unit (u * ofNat m.width)
  obtain ⟨hy0, hy1⟩ := fraction_unit (v * ofNat m.height)
  show _ ≤ c (m.sampleLinear _ _) ∧ c (m.sampleLinear _ _) ≤ _
  rw [sampleLinear_eq, hx, hy]
  have hupper := Color.channel_mix_between hc (m.texel i j) (m.texel (i + 1) j) hx0 hx1
  have hlower := Color.channel_mix_between hc (m.texel i (j + 1)) (m.texel (i + 1) (j + 1)) hx0 hx1
  obtain ⟨hmin, hmax⟩ := Color.channel_mix_between hc _ _ hy0 hy1
  exact ⟨(min_le_min hupper.1 hlower.1).trans hmin, hmax.trans (max_le_max hupper.2 hlower.2)⟩

theorem channel_texel_unit {c : Color Rat → Rat} (hc : c ∈ Color.channels) (x y : Int) :
    0 ≤ c (m.texel x y) ∧ c (m.texel x y) ≤ 1 :=
  Color.channel_ofPixel_unit hc _

theorem channel_sample_unit {c : Color Rat → Rat} (hc : c ∈ Color.channels) (u v : Rat) :
    0 ≤ c (m.sample .linear u v) ∧ c (m.sample .linear u v) ≤ 1 := by
  have htexel := fun x y => channel_texel_unit (m := m) hc x y
  obtain ⟨hmin, hmax⟩ := sample_between (m := m) hc u v rfl rfl
  refine ⟨le_trans ?_ hmin, hmax.trans ?_⟩
  · exact le_min (le_min (htexel _ _).1 (htexel _ _).1) (le_min (htexel _ _).1 (htexel _ _).1)
  · exact max_le (max_le (htexel _ _).2 (htexel _ _).2) (max_le (htexel _ _).2 (htexel _ _).2)

/-- An image of one color has this color everywhere. -/
theorem sample_uniform (hw : 0 < m.width) (hh : 0 < m.height) {p : Pixel}
    (h : ∀ x < m.width, ∀ y < m.height, m.get? x y = some p) (u v : Rat) :
    m.sample .linear u v = .ofPixel p := by
  have htexel : ∀ x y : Int, (m.texel x y : Color Rat) = .ofPixel p := fun x y => by
    obtain ⟨q, hq, htexel⟩ := texel_eq (α := Rat) hw hh x y
    rw [h _ (nearestIndex_lt hw x) _ (nearestIndex_lt hh y)] at hq
    rw [htexel, Option.some.inj hq]
  refine Color.ext_channels fun c hc => ?_
  obtain ⟨hmin, hmax⟩ := sample_between (m := m) hc u v rfl rfl
  simp only [htexel, min_self, max_self] at hmin hmax
  exact le_antisymm hmax hmin

end Image

/-! ## the laws -/

/-- What mixing the texels of an image gives, in exact arithmetic. -/
structure MixingLaws (m : Image) : Prop where
  /-- a texel is the pixel at its column and its row, both cut to the image -/
  texels : ∀ i j : Int, ∃ (x y : Nat) (p : Pixel), (x : Int) = Image.cut m.width i ∧
    (y : Int) = Image.cut m.height j ∧ m.get? x y = some p ∧ (m.texel i j : Color Rat) = .ofPixel p
  /-- each channel of a mixed color lies between the least and the greatest of this channel in the
  four texels around the place -/
  between : ∀ c ∈ Color.channels, ∀ (u v : Rat) (i j : Int), i = ⌊u * m.width - 1 / 2⌋ →
    j = ⌊v * m.height - 1 / 2⌋ →
    min (min (c (m.texel i j)) (c (m.texel (i + 1) j)))
        (min (c (m.texel i (j + 1))) (c (m.texel (i + 1) (j + 1)))) ≤ c (m.sample .linear u v) ∧
      c (m.sample .linear u v) ≤ max (max (c (m.texel i j)) (c (m.texel (i + 1) j)))
        (max (c (m.texel i (j + 1))) (c (m.texel (i + 1) (j + 1))))
  /-- so it is a number from 0 to 1, -/
  unit : ∀ c ∈ Color.channels, ∀ u v : Rat,
    0 ≤ c (m.sample .linear u v) ∧ c (m.sample .linear u v) ≤ 1
  /-- and an image of one color has this color everywhere -/
  uniform : ∀ p, (∀ x < m.width, ∀ y < m.height, m.get? x y = some p) →
    ∀ u v : Rat, m.sample .linear u v = .ofPixel p
  /-- at the center of a texel, of those beyond the edges too, both filters give the texel -/
  centers : ∀ (filter : TextureFilter) (i j : Int),
    m.sample filter (Image.center i m.width) (Image.center j m.height) = m.texel i j
  /-- the texels around a place are the same if its whole part is cut to 64 bits.  Where it is cut
  to the last index, the next one is beyond 64 bits; to go on to it is left to `Image.overcounts` -/
  words : m.width ≤ 2 ^ 63 → m.height ≤ 2 ^ 63 → ∀ (i j d e : Int), 0 ≤ d → d ≤ 1 → 0 ≤ e →
    e ≤ 1 →
    (m.texel (Single.cut64 i + d) (Single.cut64 j + e) : Color Rat) = m.texel (i + d) (j + e)

theorem mixingLaws {m : Image} (hw : 0 < m.width) (hh : 0 < m.height) : MixingLaws m where
  texels i j := by
    obtain ⟨p, hp, htexel⟩ := Image.texel_eq (α := Rat) hw hh i j
    exact ⟨_, _, p, Image.natCast_nearestIndex .., Image.natCast_nearestIndex .., hp, htexel⟩
  between _ hc u v _ _ hi hj := Image.sample_between hc u v hi hj
  unit _ hc u v := Image.channel_sample_unit hc u v
  uniform _ h u v := Image.sample_uniform hw hh h u v
  centers filter i j := Image.sample_center hw hh filter i j
  words hw' hh' i j _ _ hd hd' he he' :=
    Image.texel_congr_index (Image.cut_cut64 hw' i hd hd') (Image.cut_cut64 hh' j he he')

/-- A black pixel and a white one to the right of it. -/
def blackAndWhite : Image :=
  ⟨2, 1, #[.black, ⟨255, 255, 255, 255⟩], rfl⟩

theorem mixingLaws_blackAndWhite : MixingLaws blackAndWhite :=
  mixingLaws (by decide) (by decide)

/-- Halfway between them it is grey, unless one of them is taken. -/
example : (blackAndWhite.sample .linear (1 / 2 : Rat) (1 / 2)).r = 1 / 2 ∧
    (blackAndWhite.sample .nearest (2 / 5 : Rat) (1 / 2)).r = 0 := by decide +kernel

end FireflyOverlay
