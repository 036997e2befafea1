import FireflyOverlay.Proofs.Drawing.Blends
import FireflyOverlay.Proofs.Drawing.Coverage
import FireflyOverlay.Proofs.Drawing.Square

/-!
# The order of the corners

In exact arithmetic a triangle is drawn the same for every order of its corners.  Two moves make up
all the orders: the corners are turned by one place, or two of them are exchanged.

* `Triangle.rotate`     the corners turned by one place; the area, the pixels and all that is
                        computed for them stay the same;
* `oriented?_flip`      the orientation undoes an exchange;
* `Triangle.map_oriented?_of_perm`   what does not change when an oriented triangle is turned does
                        not depend on the order of the corners;
* `Brush.fill_of_perm`   so the image is the same: each pixel gets the same colors, through the same
                        filter.
-/

namespace FireflyOverlay

namespace Triangle

/-! ## orders of three corners -/

section
variable {α : Type} {t t' : Triangle α}

def corners (t : Triangle α) : List (Vertex α) := [t.a, t.b, t.c]

/-- The corners turned by one place. -/
def rotate (t : Triangle α) : Triangle α := ⟨t.b, t.c, t.a⟩

theorem corners_rotate (t : Triangle α) : t.rotate.corners.Perm t.corners := by
  show ([t.b, t.c] ++ [t.a]).Perm ([t.a] ++ [t.b, t.c])
  exact List.perm_append_comm

/-- With the same first corner, the other two are in one order or in the other. -/
theorem eq_or_eq_flip (h : t.corners.Perm t'.corners) (ha : t.a = t'.a) : t = t' ∨ t = t'.flip := by
  obtain ⟨a, b, c⟩ := t
  obtain ⟨a', b', c'⟩ := t'
  obtain rfl : a = a' := ha
  have hrest : [b, c].Perm [b', c'] := h.cons_inv
  rcases List.mem_cons.mp (hrest.subset List.mem_cons_self) with rfl | hb
  · have hc : c = c' := List.singleton_perm_singleton.mp hrest.cons_inv
    exact .inl (by rw [hc])
  · obtain rfl := List.mem_singleton.mp hb
    have hc : c = b' :=
      List.singleton_perm_singleton.mp (hrest.trans (List.Perm.swap ..)).cons_inv
    exact .inr (by rw [hc]; rfl)

/-- What is kept by turning the corners and by exchanging two of them does not depend on their
order. -/
theorem eq_of_perm {β : Type} {f : Triangle α → β} (hr : ∀ t, f t.rotate = f t)
    (hf : ∀ t, f t.flip = f t) (h : t.corners.Perm t'.corners) : f t = f t' := by
  have hfirst : ∀ {u : Triangle α}, u.corners.Perm t'.corners → t.a = u.a → f t = f u := by
    intro u hu ha
    rcases eq_or_eq_flip (h.trans hu.symm) ha with rfl | rfl
    · rfl
    · exact hf u
  have hmem : t.a ∈ t'.corners := h.subset List.mem_cons_self
  rcases List.mem_cons.mp hmem with ha | hmem
  · exact hfirst (.refl _) ha
  rcases List.mem_cons.mp hmem with hb | hmem
  · rw [hfirst t'.corners_rotate hb, hr]
  · have hc : t.a = t'.rotate.rotate.a := List.mem_singleton.mp hmem
    rw [hfirst (t'.rotate.corners_rotate.trans t'.corners_rotate) hc, hr, hr]

end

/-! ## turned corners -/

section
variable (t : Triangle Rat) (area : Rat)

theorem area_rotate : t.rotate.area = t.area := by
  simp only [rotate, Triangle.area, Vertex.edge]
  ring

theorem area_flip : t.flip.area = -t.area := by
  simp only [flip, Triangle.area, Vertex.edge]
  ring

theorem span_rotate (p q r : Rat) (limit : Nat) : span q r p limit = span p q r limit := by
  rw [span_eq, span_eq, min_comm (min q r) p, ← min_assoc, max_comm (max q r) p, ← max_assoc]

theorem covers_rotate (x y : Nat) : t.rotate.covers x y = t.covers x y := by
  unfold covers
  exact ((Bool.and_assoc ..).trans (Bool.and_comm ..)).symm

theorem pixels_rotate (width height : Nat) :
    t.rotate.pixels width height = t.pixels width height := by
  have hbox : t.rotate.box width height = t.box width height := by
    unfold box
    rw [← span_rotate t.a.x, ← span_rotate t.a.y]
    rfl
  unfold pixels
  rw [hbox]
  simp only [covers_rotate]

theorem interpolate_rotate (p q r : Rat) (x y : Nat) :
    t.rotate.interpolate area q r p x y = t.interpolate area p q r x y := by
  simp only [interpolate, rotate]
  ring

theorem slope_rotate (p q r : Rat) : t.rotate.slope area q r p = t.slope area p q r := by
  simp only [slope, rotate]
  ring

theorem texelsPerPixel_rotate [Root Rat] (width height : Nat) :
    t.rotate.texelsPerPixel area width height = t.texelsPerPixel area width height := by
  unfold texelsPerPixel
  rw [← slope_rotate t area t.a.u, ← slope_rotate t area t.a.v]
  rfl

end

/-! ## orientation -/

theorem oriented?_of_pos {t : Triangle Rat} (h : 0 < t.area) : t.oriented? = some (t, t.area) := by
  have hf : Scalar.isFinite t.area = true := rfl
  unfold oriented?
  dsimp only
  rw [if_pos hf, if_pos h]

theorem oriented?_of_zero {t : Triangle Rat} (h : t.area = 0) : t.oriented? = none := by
  have hp : ¬ 0 < t.area := h.not_gt
  have hn : ¬ t.area < 0 := h.not_lt
  have hf : Scalar.isFinite t.area = true := rfl
  unfold oriented?
  dsimp only
  rw [if_pos hf, if_neg hp, if_neg hn]

/-- The orientation undoes an exchange of two corners. -/
theorem oriented?_flip (t : Triangle Rat) : t.flip.oriented? = t.oriented? := by
  rcases lt_trichotomy t.area 0 with h | h | h
  · rw [oriented?_of_neg h, oriented?_of_pos (by rw [area_flip]; exact neg_pos.mpr h), area_flip]
  · rw [oriented?_of_zero h, oriented?_of_zero (by rw [area_flip, h, neg_zero])]
  · rw [oriented?_of_pos h, oriented?_of_neg (by rw [area_flip]; exact neg_neg_of_pos h), area_flip,
      neg_neg]
    rfl

/-- What does not change when an oriented triangle is turned does not depend on the order of the
corners. -/
theorem map_oriented?_of_perm {β : Type} {f : Triangle Rat × Rat → β}
    (hf : ∀ t area, f (t.rotate, area) = f (t, area)) {t t' : Triangle Rat}
    (h : t.corners.Perm t'.corners) : t.oriented?.map f = t'.oriented?.map f := by
  refine eq_of_perm (f := fun t => t.oriented?.map f) (fun t => ?_) (fun t => ?_) h
  · rcases lt_trichotomy t.area 0 with ht | ht | ht
    · -- exchanged, a turned triangle is turned the other way
      have hback : t.flip = t.rotate.flip.rotate := rfl
      rw [oriented?_of_neg ht, oriented?_of_neg (by rwa [area_rotate]), area_rotate,
        Option.map_some, Option.map_some, hback, hf]
    · rw [oriented?_of_zero ht, oriented?_of_zero (by rwa [area_rotate])]
    · rw [oriented?_of_pos ht, oriented?_of_pos (by rwa [area_rotate]), area_rotate,
        Option.map_some, Option.map_some, hf]
  · rw [oriented?_flip]

end Triangle

/-! ## images -/

namespace Brush

variable (s : Brush Rat)

theorem shade_rotate (t : Triangle Rat) (area : Rat) (sampler : Option (Image × TextureFilter))
    (x y : Nat) : s.shade t.rotate area sampler x y = s.shade t area sampler x y := by
  unfold shade
  rw [← t.interpolate_rotate area t.a.u, ← t.interpolate_rotate area t.a.v]
  rfl

section
variable [Root Rat]

/-- What is sampled for a triangle, with the choice of the filter; nothing for a triangle without
an area. -/
def samplerOf? (t : Triangle Rat) : Option (Option (Image × TextureFilter)) :=
  t.oriented?.map fun o => s.sampler? o.1 o.2

theorem sampler?_rotate (t : Triangle Rat) (area : Rat) :
    s.sampler? t.rotate area = s.sampler? t area := by
  unfold sampler?
  simp only [Triangle.texelsPerPixel_rotate]

theorem blendsOf_eq (width height : Nat) (t : Triangle Rat) :
    s.blendsOf width height t = ((t.oriented?.map fun o =>
      (o.1.pixels (min s.viewportWidth width) (min s.viewportHeight height)).map fun p =>
        (p, s.shade o.1 o.2 (s.sampler? o.1 o.2) p.1 p.2)).getD []) := by
  unfold blendsOf
  cases t.oriented? <;> rfl

/-- **The order of the corners does not matter**: the same pixels are blended with the same colors,
the same filter is chosen, and the image is the same. -/
theorem fill_of_perm {t t' : Triangle Rat} (h : t.corners.Perm t'.corners) (m : Image) :
    s.fill m t = s.fill m t' ∧
      s.blendsOf m.width m.height t = s.blendsOf m.width m.height t' ∧
      s.samplerOf? t = s.samplerOf? t' := by
  have hb : s.blendsOf m.width m.height t = s.blendsOf m.width m.height t' := by
    rw [blendsOf_eq, blendsOf_eq]
    congr 1
    refine Triangle.map_oriented?_of_perm (fun t area => ?_) h
    simp only [Triangle.pixels_rotate, shade_rotate, sampler?_rotate]
  refine ⟨?_, hb, Triangle.map_oriented?_of_perm (fun t area => s.sampler?_rotate t area) h⟩
  rw [fill_eq, fill_eq, hb]

end

/-- Paints a strip of four texels, the nearest one where it has to shrink. -/
def striped : Brush Rat where
  transform := .identity
  viewportWidth := 2
  viewportHeight := 2
  color := .opaqueWhite
  texture := some ⟨.nearest, .linear, some (.ofFn 4 1 fun x _ => ⟨x.toUInt8, 0, 0, 255⟩)⟩
  blend := none

theorem fill_striped_of_perm :
    striped.fill (.black 2 2) ⟨⟨0, 0, 0, 0⟩, ⟨2, 0, 1, 0⟩, ⟨0, 2, 0, 0⟩⟩
        = striped.fill (.black 2 2) ⟨⟨2, 0, 1, 0⟩, ⟨0, 0, 0, 0⟩, ⟨0, 2, 0, 0⟩⟩ ∧
      (striped.fill (.black 2 2) ⟨⟨0, 0, 0, 0⟩, ⟨2, 0, 1, 0⟩, ⟨0, 2, 0, 0⟩⟩).get? 0 0
        = some ⟨1, 0, 0, 255⟩ :=
  ⟨(striped.fill_of_perm (by decide) (.black 2 2)).1, by decide +kernel⟩

end Brush
end FireflyOverlay
