import FireflyOverlay.Proofs.Canvas.Runs
import FireflyOverlay.Proofs.Drawing.Overrun
import FireflyOverlay.Proofs.Drawing.Texels

/-!
# Sampling at any place

In single precision a place on a sprite may be anything: huge, infinite or not a number.  A color is
sampled from texels inside of the image all the same, the ones at the floor of the shifted
coordinate and after it, cut to the edges.  But the index after the last one of 64 bits does not
exist, and a coordinate of `2 ^ 63` or more asks for it.

* `Image.indicesRead_linear`, `Image.indicesRead_nearest`   the columns, or the rows, that are read;
* `Image.overcounts_iff`   where an index has none after it;
* `StrictCanvas.crash_iff`   the calls that crash;
* `samplingLaws`           all of it;
* `crash_steepCanvas`      a draw with a place that is infinite.
-/

namespace FireflyOverlay

open Scalar

namespace Image

/-! ## columns and rows -/

section
variable {n : Nat} {u : Float32} {i : Int}

/-- The columns that are mixed are the one at the floor of the shifted coordinate and the next one,
each cut to the edges. -/
theorem indicesRead_linear (hn : n ≤ 2 ^ 63) (h : Single.FloorOf (shifted n u) i) :
    (indicesRead .linear n u).map Int.ofNat = [cut n i, cut n (i + 1)] := by
  have hcorner : cornerIndex (u * ofNat n) = Single.cut64 i :=
    (cornerIndex_eq n u).trans h.trunc_floor
  have hfirst : cut n (Single.cut64 i) = cut n i := by
    have hcut := cut_cut64 hn i (d := 0) le_rfl (by decide)
    rwa [Int.add_zero, Int.add_zero] at hcut
  have hsecond : cut n (Single.cut64 i + 1) = cut n (i + 1) := cut_cut64 hn i (by decide) le_rfl
  show [Int.ofNat (nearestIndex _ n), Int.ofNat (nearestIndex (_ + 1) n)] = _
  rw [hcorner]
  exact congrArg₂ (fun a b => [a, b]) ((natCast_nearestIndex _ n).trans hfirst)
    ((natCast_nearestIndex _ n).trans hsecond)

theorem indicesRead_nearest (hn : n ≤ 2 ^ 63) (h : Single.FloorOf (u * ofNat n) i) :
    (indicesRead .nearest n u).map Int.ofNat = [cut n i] := by
  have hindex : trunc (floor (u * ofNat n)) = Single.cut64 i := h.trunc_floor
  have hcut := cut_cut64 hn i (d := 0) le_rfl (by decide)
  rw [Int.add_zero, Int.add_zero] at hcut
  show [Int.ofNat (nearestIndex _ n)] = _
  rw [hindex]
  exact congrArg (fun a => [a]) ((natCast_nearestIndex _ n).trans hcut)

end

/-! ## the index after the last one -/

/-- Only a mixed color asks for an index that does not exist, and only at `2 ^ 63` or beyond. -/
theorem overcounts_iff {m : Image} {filter : TextureFilter} {u v : Float32} :
    m.overcounts filter u v = true ↔ filter = .linear ∧
      (Single.ofNat (2 ^ 63) ≤ shifted m.width u ∨ Single.ofNat (2 ^ 63) ≤ shifted m.height v) := by
  have hside : ∀ (n : Nat) (u : Float32), lastIndex ≤ cornerIndex (u * ofNat n) ↔
      Single.ofNat (2 ^ 63) ≤ shifted n u := fun n u => by
    rw [cornerIndex_eq]
    exact Single.last_le_trunc_floor_iff _
  cases filter with
  | nearest =>
    constructor
    · intro h
      cases h
    · rintro ⟨h, -⟩
      cases h
  | linear =>
    unfold overcounts
    simp only [Bool.or_eq_true, decide_eq_true_eq, hside, true_and]

/-- Elsewhere all indices have 64 bits. -/
theorem cornerIndex_words {m : Image} {u v : Float32} (h : m.overcounts .linear u v = false) :
    ∀ i ∈ [cornerIndex (u * ofNat m.width), cornerIndex (v * ofNat m.height)],
      -2 ^ 63 ≤ i ∧ i + 1 < 2 ^ 63 := by
  have hlow : ∀ (n : Nat) (u : Float32), -2 ^ 63 ≤ cornerIndex (u * ofNat n) := fun n u => by
    obtain ⟨i, hi⟩ := Single.exists_floorOf (shifted n u)
    have hcorner : cornerIndex (u * ofNat n) = Single.cut64 i :=
      (cornerIndex_eq n u).trans hi.trunc_floor
    rw [hcorner]
    exact le_max_left ..
  have hlast : lastIndex = 2 ^ 63 - 1 := rfl
  unfold overcounts at h
  simp only [Bool.or_eq_false_iff, decide_eq_false_iff_not, hlast] at h
  simp only [List.forall_mem_cons, List.not_mem_nil, false_implies, implies_true, and_true]
  have hu := hlow m.width u
  have hv := hlow m.height v
  omega

end Image

/-! ## calls that crash -/

theorem StrictCanvas.crash_iff {s : Canvas Float32} {c : Call Float32} :
    (StrictCanvas.step c ⟨⟨s⟩⟩).1.reply = none ↔ s.overcounts c = true ∨ s.overruns c = true := by
  unfold StrictCanvas.step
  split
  · next h => exact ⟨fun _ => .inl h, fun _ => rfl⟩
  · next h =>
    show (CheckedCanvas.step c ⟨s⟩).1.reply = none ↔ _
    rw [Canvas.crash_iff]
    exact ⟨.inr, fun hor => hor.resolve_left h⟩

theorem StrictCanvas.step_eq {s : Canvas Float32} {c : Call Float32}
    (h : s.overcounts c = false) (h' : s.overruns c = false) :
    StrictCanvas.step c ⟨⟨s⟩⟩ = ((Canvas.step c s).1, ⟨⟨(Canvas.step c s).2⟩⟩) := by
  unfold StrictCanvas.step
  rw [if_neg (by rw [h]; exact Bool.false_ne_true), CheckedCanvas.step_eq h']

/-! ## the laws -/

/-- What is read of an image with texels, at any places in single precision. -/
structure SamplingLaws (m : Image) : Prop where
  /-- the places read lie in the image, -/
  inside : ∀ filter (u v : Float32), ∀ p ∈ m.placesRead filter u v,
    p.1 < m.width ∧ p.2 < m.height
  /-- and the color depends on the pixels at these places alone -/
  reads : ∀ filter (u v : Float32) (k : Image), m.SameSize k →
    (∀ p ∈ m.placesRead filter u v, m.get? p.1 p.2 = k.get? p.1 p.2) →
    m.sample filter u v = k.sample filter u v
  /-- every coordinate is read as an integer: the floor, 0 for what is not a number, and an integer
  beyond 64 bits for what is infinite -/
  total : ∀ x : Float32, ∃ i, Single.FloorOf x i
  /-- which is cut to 64 bits, -/
  words : ∀ (x : Float32) i, Single.FloorOf x i →
    trunc (floor x) = max (-2 ^ 63) (min i (2 ^ 63 - 1))
  /-- and the columns, or the rows, that are mixed are this integer and the next one, each cut to
  the edges -/
  linear : ∀ n ∈ [m.width, m.height], ∀ (u : Float32) i, Single.FloorOf (Image.shifted n u) i →
    (Image.indicesRead .linear n u).map Int.ofNat = [Image.cut n i, Image.cut n (i + 1)]
  nearest : ∀ n ∈ [m.width, m.height], ∀ (u : Float32) i, Single.FloorOf (u * ofNat n) i →
    (Image.indicesRead .nearest n u).map Int.ofNat = [Image.cut n i]
  /-- the next one has 64 bits as well, -/
  next : ∀ u v : Float32, m.overcounts .linear u v = false →
    ∀ i ∈ [Image.cornerIndex (u * ofNat m.width), Image.cornerIndex (v * ofNat m.height)],
      -2 ^ 63 ≤ i ∧ i + 1 < 2 ^ 63
  /-- unless a mixed color has a shifted coordinate of `2 ^ 63` or more -/
  overcounts : ∀ filter (u v : Float32), m.overcounts filter u v = true ↔ filter = .linear ∧
    (Single.ofNat (2 ^ 63) ≤ Image.shifted m.width u ∨
      Single.ofNat (2 ^ 63) ≤ Image.shifted m.height v)
  /-- a call crashes if it mixes such a color, or leaves the image of its surface, -/
  crashes : ∀ (s : Canvas Float32) c, (StrictCanvas.step c ⟨⟨s⟩⟩).1.reply = none ↔
    s.overcounts c = true ∨ s.overruns c = true
  /-- and any other call is carried out as it is on any canvas -/
  calls : ∀ (s : Canvas Float32) c, s.overcounts c = false → s.overruns c = false →
    StrictCanvas.step c ⟨⟨s⟩⟩ = ((Canvas.step c s).1, ⟨⟨(Canvas.step c s).2⟩⟩)

theorem samplingLaws {m : Image} (hw : 0 < m.width ∧ m.width ≤ 2 ^ 63)
    (hh : 0 < m.height ∧ m.height ≤ 2 ^ 63) : SamplingLaws m where
  inside _ _ _ _ hp :=
    have hsides := Image.mem_placesRead.mp hp
    ⟨Image.lt_of_mem_indicesRead hw.1 hsides.1, Image.lt_of_mem_indicesRead hh.1 hsides.2⟩
  reads _ _ _ _ hs h := Image.sample_congr hs h
  total := Single.exists_floorOf
  words _ _ h := h.trunc_floor
  linear n hn u i h := by
    have hsides : ∀ n ∈ [m.width, m.height], n ≤ 2 ^ 63 :=
      List.forall_mem_cons.mpr ⟨hw.2, List.forall_mem_singleton.mpr hh.2⟩
    exact Image.indicesRead_linear (hsides n hn) h
  nearest n hn u i h := by
    have hsides : ∀ n ∈ [m.width, m.height], n ≤ 2 ^ 63 :=
      List.forall_mem_cons.mpr ⟨hw.2, List.forall_mem_singleton.mpr hh.2⟩
    exact Image.indicesRead_nearest (hsides n hn) h
  next _ _ h := Image.cornerIndex_words h
  overcounts _ _ _ := Image.overcounts_iff
  crashes _ _ := StrictCanvas.crash_iff
  calls _ _ := StrictCanvas.step_eq

theorem samplingLaws_black : SamplingLaws (.black 4 3) := samplingLaws (by decide) (by decide)

/-- A surface of one pixel, and a red texture on a quad so steep that the area over an edge is not
finite, although the area of the triangle is. -/
def steepCanvas : Canvas Float32 :=
  let steep : Mat4 Float32 :=
    ⟨⟨.ofBits 0xdd000000, .ofBits 0x5d600000, 0, .ofBits 0xdfe00000⟩,
     ⟨.ofBits 0x5d000000, .ofBits 0x5d600000, 0, .ofBits 0xdfe00000⟩, ⟨0, 0, 1, 0⟩, ⟨0, 0, 0, 1⟩⟩
  Canvas.initial.run
    [.window 1 1, .call (.openDisplay Canvas.displayId),
      .call (.createContext Canvas.displayId Canvas.configId),
      .call (.createSurface Canvas.displayId Canvas.configId 0),
      .call (.makeCurrent Canvas.displayId (some { context := 1, surface := 2 })),
      .call (.draw .generateTexture), .call (.draw (.bindTexture 1)),
      .call (.draw (.uploadTexture 1 1 #[255, 0, 0, 255])), .call (.draw (.setTexturing true)),
      .call (.draw .enableQuadArrays), .call (.draw (.setModelView steep))]

/-- The pixel is inside, and its place on the sprite is infinitely far to the right. -/
theorem crash_steepCanvas :
    steepCanvas.overruns (.draw (.drawElements [1, 0, 2])) = false ∧
      (StrictCanvas.step (.draw (.drawElements [1, 0, 2])) ⟨⟨steepCanvas⟩⟩).1.reply = none := by
  have hover : steepCanvas.overcounts (.draw (.drawElements [1, 0, 2])) = true := by
    decide +kernel
  exact ⟨by decide +kernel, StrictCanvas.crash_iff.mpr (.inl hover)⟩

end FireflyOverlay
