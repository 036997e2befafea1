import Mathlib.Algebra.Order.BigOperators.Group.List
import FireflyOverlay.Proofs.Drawing.Blends
import FireflyOverlay.Proofs.Drawing.Coverage

/-!
# Light is added up

In exact arithmetic an additive blend adds a whole number to each channel, and stops at 255.  The
number does not depend on what was there before, so any number of blends can be put together, and in
any order.

* `Color.gain`         what a color adds to a channel;
* `Color.Lit`          no channel takes light away; the colors of textures are such
                       (`Image.lit_sample`);
* `blend_lit`          one additive blend, `blendColors_lit` any number of them;
* `blendAll_perm`      the order of blends does not matter;
* `noDarker_blendAll`  no pixel gets darker.
-/

namespace FireflyOverlay

/-! ## one blend -/

/-- A byte that grows, up to 255. -/
def brighten (d : UInt8) (n : Nat) : UInt8 := (min 255 (d.toNat + n)).toUInt8

theorem toNat_brighten (d : UInt8) (n : Nat) : (brighten d n).toNat = min 255 (d.toNat + n) := by
  show min 255 (d.toNat + n) % 2 ^ 8 = _
  omega

theorem brighten_zero (d : UInt8) : brighten d 0 = d := by
  have hd : d.toNat < 256 := d.toNat_lt
  rw [← UInt8.toNat_inj, toNat_brighten]
  omega

theorem brighten_brighten (d : UInt8) (m n : Nat) :
    brighten (brighten d m) n = brighten d (m + n) := by
  rw [← UInt8.toNat_inj, toNat_brighten, toNat_brighten, toNat_brighten]
  omega

theorem le_brighten (d : UInt8) (n : Nat) : d.toNat ≤ (brighten d n).toNat := by
  have hd : d.toNat < 256 := d.toNat_lt
  rw [toNat_brighten]
  omega

/-- No channel takes light away. -/
structure Color.Lit (k : Color Rat) : Prop where
  r : 0 ≤ k.r
  g : 0 ≤ k.g
  b : 0 ≤ k.b
  a : 0 ≤ k.a

/-- What the channel `c` of a color adds to a pixel; a half counts as a whole. -/
def Color.gain (k : Color Rat) (c : Rat) : Nat := ⌊255 * (c * k.a) + 1 / 2⌋.toNat

theorem toByte_add {c a : Rat} (hc : 0 ≤ c) (ha : 0 ≤ a) (d : UInt8) :
    Scalar.toByte (c * a + Scalar.ofByte d * (1 : Rat))
      = brighten d ⌊255 * (c * a) + 1 / 2⌋.toNat := by
  have hd : (Scalar.ofByte d : Rat) = (d.toNat : Rat) / 255 := rfl
  have hsum : 0 ≤ c * a + (d.toNat : Rat) / 255 * 1 := by positivity
  have hfloor : ⌊255 * (c * a + (d.toNat : Rat) / 255 * 1) + 1 / 2⌋
      = ⌊255 * (c * a) + 1 / 2⌋ + (d.toNat : Int) := by
    rw [← Int.floor_add_natCast]
    congr 1
    ring
  have hgain : 0 ≤ ⌊255 * (c * a) + 1 / 2⌋ := Int.floor_nonneg.mpr (by positivity)
  rw [← UInt8.toNat_inj, toNat_brighten, hd, Exact.toNat_toByte hsum, hfloor]
  omega

theorem blend_lit {k : Color Rat} (h : k.Lit) (p : Pixel) :
    blend (some .additive) k p
      = ⟨brighten p.r (k.gain k.r), brighten p.g (k.gain k.g), brighten p.b (k.gain k.b), 255⟩ := by
  show (⟨Scalar.toByte (k.r * k.a + Scalar.ofByte p.r * 1),
    Scalar.toByte (k.g * k.a + Scalar.ofByte p.g * 1),
    Scalar.toByte (k.b * k.a + Scalar.ofByte p.b * 1), 255⟩ : Pixel) = _
  rw [toByte_add h.r h.a, toByte_add h.g h.a, toByte_add h.b h.a]
  rfl

theorem blend_comm {k l : Color Rat} (hk : k.Lit) (hl : l.Lit) (p : Pixel) :
    blend (some .additive) l (blend (some .additive) k p)
      = blend (some .additive) k (blend (some .additive) l p) := by
  rw [blend_lit hk, blend_lit hl, blend_lit hl, blend_lit hk]
  simp only [brighten_brighten, Nat.add_comm]

/-! ## any number of blends -/

/-- Colors that are blended onto a pixel, one after the other. -/
def blendColors {α : Type} [Scalar α] (f : Option BlendFunc) (ks : List (Color α)) (p : Pixel) :
    Pixel :=
  ks.foldl (fun p k => blend f k p) p

theorem blendColors_lit {ks : List (Color Rat)} (h : ∀ k ∈ ks, k.Lit) (p : Pixel) :
    (blendColors (some .additive) ks p).r = brighten p.r (ks.map fun k => k.gain k.r).sum ∧
      (blendColors (some .additive) ks p).g = brighten p.g (ks.map fun k => k.gain k.g).sum ∧
      (blendColors (some .additive) ks p).b = brighten p.b (ks.map fun k => k.gain k.b).sum := by
  induction ks generalizing p with
  | nil => exact ⟨(brighten_zero p.r).symm, (brighten_zero p.g).symm, (brighten_zero p.b).symm⟩
  | cons k ks ih =>
    obtain ⟨hk, hks⟩ := List.forall_mem_cons.mp h
    obtain ⟨hr, hg, hb⟩ := ih hks (blend (some .additive) k p)
    show (blendColors _ ks (blend _ k p)).r = _ ∧ (blendColors _ ks (blend _ k p)).g = _ ∧
      (blendColors _ ks (blend _ k p)).b = _
    rw [hr, hg, hb, blend_lit hk]
    simp only [brighten_brighten, List.map_cons, List.sum_cons, and_self]

theorem blendColors_perm {ks ls : List (Color Rat)} (hp : ks.Perm ls) (h : ∀ k ∈ ks, k.Lit)
    (p : Pixel) : blendColors (some .additive) ks p = blendColors (some .additive) ls p :=
  hp.foldl_eq' (fun k hk l hl p => blend_comm (h k hk) (h l hl) p) p

/-- No channel of `q` has less light than `p` has. -/
structure Pixel.NoDarker (p q : Pixel) : Prop where
  r : p.r.toNat ≤ q.r.toNat
  g : p.g.toNat ≤ q.g.toNat
  b : p.b.toNat ≤ q.b.toNat

theorem noDarker_blendColors {ks : List (Color Rat)} (h : ∀ k ∈ ks, k.Lit) (p : Pixel) :
    p.NoDarker (blendColors (some .additive) ks p) := by
  obtain ⟨hr, hg, hb⟩ := blendColors_lit h p
  exact ⟨hr ▸ le_brighten .., hg ▸ le_brighten .., hb ▸ le_brighten ..⟩

/-! ## images -/

theorem Image.ext_get? {m k : Image} (hs : m.SameSize k) (h : ∀ x y, m.get? x y = k.get? x y) :
    m = k := by
  obtain ⟨w, v, ps, hps⟩ := m
  obtain ⟨w', v', qs, hqs⟩ := k
  obtain ⟨rfl, rfl⟩ : w = w' ∧ v = v' := hs
  suffices hpixels : ps = qs by subst hpixels; rfl
  refine Array.ext (hps.trans hqs.symm) fun i hi hi' => ?_
  have hw : 0 < w := by
    rcases Nat.eq_zero_or_pos w with rfl | hw
    · rw [hps, Nat.zero_mul] at hi
      exact absurd hi (Nat.not_lt_zero i)
    · exact hw
  -- the pixel of an index is the one at its column and its row
  have hindex : i / w * w + i % w = i := Nat.div_add_mod' i w
  have hxy := h (i % w) (i / w)
  have hx : i % w < w := Nat.mod_lt i hw
  simp only [get?, index, hx, if_true, hindex] at hxy
  rwa [Array.getElem?_eq_getElem hi, Array.getElem?_eq_getElem hi', Option.some.injEq] at hxy

section
variable {α : Type} [Scalar α]

/-- The colors that are blended onto a pixel. -/
def colorsAt (ks : List ((Nat × Nat) × Color α)) (x y : Nat) : List (Color α) :=
  (ks.filter fun k => k.1 = (x, y)).map (·.2)

theorem get?_blendAll_colors (f : Option BlendFunc) (ks : List ((Nat × Nat) × Color α)) (m : Image)
    (x y : Nat) :
    (blendAll f ks m).get? x y = (m.get? x y).map (blendColors f (colorsAt ks x y)) := by
  rw [get?_blendAll]
  congr 1
  funext p
  rw [blendColors, colorsAt, List.foldl_map]

end

/-- No blend takes light away. -/
def AllLit (ks : List ((Nat × Nat) × Color Rat)) : Prop := ∀ k ∈ ks, k.2.Lit

theorem AllLit.colorsAt {ks : List ((Nat × Nat) × Color Rat)} (h : AllLit ks) (x y : Nat) :
    ∀ k ∈ colorsAt ks x y, k.Lit := by
  intro k hk
  obtain ⟨e, he, rfl⟩ := List.mem_map.mp hk
  exact h e (List.mem_filter.mp he).1

/-- The order of blends does not matter. -/
theorem blendAll_perm {ks ls : List ((Nat × Nat) × Color Rat)} (hp : ks.Perm ls) (h : AllLit ks)
    (m : Image) : blendAll (some .additive) ks m = blendAll (some .additive) ls m := by
  refine Image.ext_get? ((sameSize_blendAll ..).trans (sameSize_blendAll ..).symm) fun x y => ?_
  have hcolors : (colorsAt ks x y).Perm (colorsAt ls x y) := (hp.filter _).map _
  have hblend : blendColors (some .additive) (colorsAt ks x y)
      = blendColors (some .additive) (colorsAt ls x y) :=
    funext (blendColors_perm hcolors (h.colorsAt x y))
  rw [get?_blendAll_colors, get?_blendAll_colors, hblend]

theorem noDarker_blendAll {ks : List ((Nat × Nat) × Color Rat)} (h : AllLit ks) {m : Image}
    {x y : Nat} {p : Pixel} (hp : m.get? x y = some p) :
    ∃ q, (blendAll (some .additive) ks m).get? x y = some q ∧ p.NoDarker q :=
  ⟨_, by rw [get?_blendAll_colors, hp]; rfl, noDarker_blendColors (h.colorsAt x y) p⟩

/-! ## colors of textures -/

namespace Color

theorem lit_ofPixel (p : Pixel) : (ofPixel p : Color Rat).Lit :=
  have hbyte : ∀ b : UInt8, 0 ≤ (Scalar.ofByte b : Rat) := fun b =>
    div_nonneg (Nat.cast_nonneg b.toNat) (by decide)
  ⟨hbyte p.r, hbyte p.g, hbyte p.b, hbyte p.a⟩

theorem lit_white {alpha : Rat} (h : 0 ≤ alpha) : (white alpha).Lit :=
  have hone : (0 : Rat) ≤ 1 := zero_le_one
  ⟨hone, hone, hone, h⟩

variable {k l : Color Rat}

theorem Lit.modulate (hk : k.Lit) (hl : l.Lit) : (k.modulate l).Lit :=
  ⟨mul_nonneg hk.r hl.r, mul_nonneg hk.g hl.g, mul_nonneg hk.b hl.b, mul_nonneg hk.a hl.a⟩

theorem mix_nonneg {x y t : Rat} (hx : 0 ≤ x) (hy : 0 ≤ y) (h : 0 ≤ t) (h' : t ≤ 1) :
    0 ≤ x + (y - x) * t := by
  have hsum : x + (y - x) * t = x * (1 - t) + y * t := by ring
  rw [hsum]
  exact add_nonneg (mul_nonneg hx (sub_nonneg.mpr h')) (mul_nonneg hy h)

theorem Lit.mix (hk : k.Lit) (hl : l.Lit) {t : Rat} (h : 0 ≤ t) (h' : t ≤ 1) : (k.mix l t).Lit :=
  ⟨mix_nonneg hk.r hl.r h h', mix_nonneg hk.g hl.g h h', mix_nonneg hk.b hl.b h h',
    mix_nonneg hk.a hl.a h h'⟩

end Color

namespace Image

theorem lit_texel (m : Image) (x y : Int) : (m.texel x y : Color Rat).Lit := Color.lit_ofPixel _

/-- A mean of texels is lit as they are. -/
theorem lit_sample (m : Image) (filter : TextureFilter) (u v : Rat) :
    (m.sample filter u v).Lit := by
  have hfrac : ∀ x : Rat, 0 ≤ x - Scalar.floor x ∧ x - Scalar.floor x ≤ 1 := fun x =>
    ⟨sub_nonneg.mpr (Int.floor_le x), by
      have hlt : x < ⌊x⌋ + 1 := Int.lt_floor_add_one x
      have hfloor : (Scalar.floor x : Rat) = ⌊x⌋ := rfl
      linarith⟩
  cases filter with
  | nearest => exact lit_texel ..
  | linear =>
    refine ((lit_texel ..).mix (lit_texel ..) ?_ ?_).mix ((lit_texel ..).mix (lit_texel ..) ?_ ?_)
      ?_ ?_
    all_goals first | exact (hfrac _).1 | exact (hfrac _).2

end Image

/-! ## draws -/

namespace Brush

variable {s : Brush Rat}

theorem lit_shade (h : s.color.Lit) (t : Triangle Rat) (area : Rat)
    (sampler : Option (Image × TextureFilter)) (x y : Nat) : (s.shade t area sampler x y).Lit := by
  cases sampler with
  | none => exact h
  | some found => exact (found.1.lit_sample found.2 _ _).modulate h

variable [Root Rat]

theorem allLit_blends (h : s.color.Lit) (positions : List (Rat × Rat × Rat))
    (spritePoints : List (Rat × Rat)) (indices : List Nat) (width height : Nat) :
    AllLit (s.blends positions spritePoints indices width height) := by
  intro k hk
  obtain ⟨t, -, hk⟩ := List.mem_flatMap.mp hk
  unfold blendsOf at hk
  split at hk
  · exact absurd hk List.not_mem_nil
  · obtain ⟨p, -, rfl⟩ := List.mem_map.mp hk
    exact lit_shade h ..

/-- An additive draw makes no pixel darker. -/
theorem noDarker_drawElements (hf : s.blend = some .additive) (h : s.color.Lit)
    (positions : List (Rat × Rat × Rat)) (spritePoints : List (Rat × Rat)) (indices : List Nat)
    {m : Image} {x y : Nat} {p : Pixel} (hp : m.get? x y = some p) :
    ∃ q, (s.drawElements positions spritePoints indices m).get? x y = some q ∧ p.NoDarker q := by
  rw [drawElements_eq, hf]
  exact noDarker_blendAll (allLit_blends h _ _ _ _ _) hp

end Brush
end FireflyOverlay
