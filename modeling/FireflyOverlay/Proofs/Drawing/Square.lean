import Mathlib.Data.Rat.Sqrt
import Mathlib.Tactic.FieldSimp
import Mathlib.Tactic.Positivity
import FireflyOverlay.Firefly
import FireflyOverlay.Proofs.Canvas.Isolation
import FireflyOverlay.Proofs.Drawing.Blends
import FireflyOverlay.Proofs.Drawing.Coverage

/-!
# The square of a firefly

A firefly is drawn as two triangles that share a diagonal.  In exact arithmetic they make up a
square, and every pixel of the square is blended once.

* `Square.lower`, `Square.upper`   the halves of a square; `covers_lower` and `covers_upper` say
                        which pixels they cover, `Square.Half` where these are on the sprite;
* `Firefly.blends`      what is blended for a firefly, in order;
* `Firefly.Covers`      the pixels of its square, `Firefly.colorAt` their colors;
* `covers_halves`       the halves share no pixel and leave none out;
* `draws_square`        on a canvas, each pixel of the square is blended once, and no other pixel
                        changes.
-/

namespace FireflyOverlay

/-! ## transforms -/

namespace Mat4

theorem mul_apply (a b : Mat4 Rat) (v : Vec4 Rat) : (a * b).apply v = a.apply (b.apply v) := by
  show (Mat4.mul a b).apply v = _
  simp only [Mat4.mul, Mat4.apply, Mat4.transpose, Vec4.dot, Vec4.mk.injEq]
  refine ⟨?_, ?_, ?_, ?_⟩ <;> ring

theorem place_apply (x y s px py : Rat) :
    (place x y s).apply ⟨px, py, 0, 1⟩ = ⟨x + s * px, y + s * py, 0, 1⟩ := by
  rw [place, mul_apply]
  simp [translation, scaling, apply, Vec4.dot, add_comm]

theorem ortho_apply {width height : Nat} (hw : 1 ≤ width) (hh : 1 ≤ height) (x y : Rat) :
    (ortho 0 (width : Rat) height 0 (-1) 1).apply ⟨x, y, 0, 1⟩
      = ⟨2 * x / width - 1, 1 - 2 * y / height, 0, 1⟩ := by
  have hw : (width : Rat) ≠ 0 := by positivity
  have hh : (height : Rat) ≠ 0 := by positivity
  simp only [ortho, apply, Vec4.dot, Vec4.mk.injEq]
  refine ⟨?_, ?_, ?_, ?_⟩
  · field_simp
    ring
  · field_simp
    ring
  · ring
  · ring

end Mat4

/-! ## two triangles -/

namespace Square

variable {x y l : Rat} {i j : Nat}

/-- The half below the diagonal, turned so that its area is positive. -/
def lower (x y l : Rat) : Triangle Rat :=
  ⟨⟨x, y, 0, 0⟩, ⟨x + l, y + l, 1, 1⟩, ⟨x, y + l, 1, 0⟩⟩

/-- The half above the diagonal. -/
def upper (x y l : Rat) : Triangle Rat :=
  ⟨⟨x, y, 0, 0⟩, ⟨x + l, y, 0, 1⟩, ⟨x + l, y + l, 1, 1⟩⟩

theorem flip_oriented? {t : Triangle Rat} (hl : l ≠ 0) (h : t.area = l * l) :
    t.flip.oriented? = some (t, l * l) := by
  have hf : t.flip.area = -(l * l) := by
    rw [← h]
    simp only [Triangle.area, Triangle.flip, Vertex.edge]
    ring
  have hpos : 0 < l * l := mul_self_pos.mpr hl
  rw [Triangle.oriented?_of_neg (by rw [hf]; exact neg_neg_of_pos hpos), hf, neg_neg]
  rfl

/-- The half below the diagonal: the diagonal belongs to it, its other edges do not. -/
theorem covers_lower (hl : 0 < l) :
    (lower x y l).covers i j = true ↔
      x < i + 1 / 2 ∧ (j + 1 / 2 : Rat) < y + l ∧ (i + 1 / 2 : Rat) - x ≤ j + 1 / 2 - y := by
  have hbottom : (lower x y l).b.owns (lower x y l).c = false := by
    rw [← Bool.not_eq_true, Triangle.owns_iff]
    simp only [lower]
    rintro (h | ⟨-, h⟩) <;> linarith
  have hleft : (lower x y l).c.owns (lower x y l).a = false := by
    rw [← Bool.not_eq_true, Triangle.owns_iff]
    simp only [lower]
    rintro (h | ⟨h, -⟩) <;> linarith
  have hdiagonal : (lower x y l).a.owns (lower x y l).b = true := by
    rw [Triangle.owns_iff]
    simp only [lower]
    exact .inl (by linarith)
  have h₁ : (lower x y l).b.edge (lower x y l).c (i + 1 / 2) (j + 1 / 2)
      = l * (y + l - (j + 1 / 2)) := by
    simp only [lower, Vertex.edge]
    ring
  have h₂ : (lower x y l).c.edge (lower x y l).a (i + 1 / 2) (j + 1 / 2)
      = l * (i + 1 / 2 - x) := by
    simp only [lower, Vertex.edge]
    ring
  have h₃ : (lower x y l).a.edge (lower x y l).b (i + 1 / 2) (j + 1 / 2)
      = l * ((j + 1 / 2 - y) - (i + 1 / 2 - x)) := by
    simp only [lower, Vertex.edge]
    ring
  rw [Triangle.covers_iff, Triangle.admits_of_not_owned hbottom,
    Triangle.admits_of_not_owned hleft, Triangle.admits_of_owned hdiagonal, Triangle.center_eq,
    Triangle.center_eq, h₁, h₂, h₃, mul_pos_iff_of_pos_left hl, mul_pos_iff_of_pos_left hl,
    mul_nonneg_iff_of_pos_left hl, sub_pos, sub_pos, sub_nonneg]
  exact and_left_comm

/-- The half above the diagonal: the diagonal does not belong to it, its other edges do. -/
theorem covers_upper (hl : 0 < l) :
    (upper x y l).covers i j = true ↔
      (i + 1 / 2 : Rat) ≤ x + l ∧ y ≤ j + 1 / 2 ∧ (j + 1 / 2 : Rat) - y < i + 1 / 2 - x := by
  have hright : (upper x y l).b.owns (upper x y l).c = true := by
    rw [Triangle.owns_iff]
    simp only [upper]
    exact .inl (by linarith)
  have hdiagonal : (upper x y l).c.owns (upper x y l).a = false := by
    rw [← Bool.not_eq_true, Triangle.owns_iff]
    simp only [upper]
    rintro (h | ⟨h, -⟩) <;> linarith
  have htop : (upper x y l).a.owns (upper x y l).b = true := by
    rw [Triangle.owns_iff]
    simp only [upper]
    exact .inr ⟨trivial, by linarith⟩
  have h₁ : (upper x y l).b.edge (upper x y l).c (i + 1 / 2) (j + 1 / 2)
      = l * (x + l - (i + 1 / 2)) := by
    simp only [upper, Vertex.edge]
    ring
  have h₂ : (upper x y l).c.edge (upper x y l).a (i + 1 / 2) (j + 1 / 2)
      = l * ((i + 1 / 2 - x) - (j + 1 / 2 - y)) := by
    simp only [upper, Vertex.edge]
    ring
  have h₃ : (upper x y l).a.edge (upper x y l).b (i + 1 / 2) (j + 1 / 2)
      = l * (j + 1 / 2 - y) := by
    simp only [upper, Vertex.edge]
    ring
  rw [Triangle.covers_iff, Triangle.admits_of_owned hright,
    Triangle.admits_of_not_owned hdiagonal, Triangle.admits_of_owned htop, Triangle.center_eq,
    Triangle.center_eq, h₁, h₂, h₃, mul_nonneg_iff_of_pos_left hl, mul_pos_iff_of_pos_left hl,
    mul_nonneg_iff_of_pos_left hl, sub_nonneg, sub_pos, sub_nonneg]
  exact and_congr .rfl and_comm

/-! ## places on the sprite -/

variable [Root Rat]

/-- A half of the square.  The sprite lies on its side: its columns run down the square, so that one
pixel to the right is a part of its height. -/
structure Half (x y l : Rat) (t : Triangle Rat) : Prop where
  area : t.area = l * l
  row : ∀ i j, t.interpolate (l * l) t.a.u t.b.u t.c.u i j = (j + 1 / 2 - y) / l
  column : ∀ i j, t.interpolate (l * l) t.a.v t.b.v t.c.v i j = (i + 1 / 2 - x) / l
  texels : ∀ width height, t.texelsPerPixel (l * l) width height
    = Root.sqrt ((height : Rat) / l * (height / l))

theorem texels_eq {t : Triangle Rat} {area : Rat} (hu : t.slope area t.a.u t.b.u t.c.u = 0)
    (hv : t.slope area t.a.v t.b.v t.c.v = 1 / l) (width height : Nat) :
    t.texelsPerPixel area width height = Root.sqrt ((height : Rat) / l * (height / l)) := by
  unfold Triangle.texelsPerPixel
  rw [hu, hv]
  show Root.sqrt ((0 : Rat) * width * (0 * width) + 1 / l * height * (1 / l * height)) = _
  congr 1
  ring

theorem half_lower (hl : l ≠ 0) : Half x y l (lower x y l) where
  area := by
    simp only [Triangle.area, Vertex.edge, lower]
    ring
  row i j := by
    simp only [Triangle.interpolate, lower, Vertex.edge, Triangle.center_eq]
    field_simp
    ring
  column i j := by
    simp only [Triangle.interpolate, lower, Vertex.edge, Triangle.center_eq]
    field_simp
    ring
  texels := by
    refine texels_eq ?_ ?_
    · simp only [Triangle.slope, lower]
      field_simp
      ring
    · simp only [Triangle.slope, lower]
      field_simp
      ring

theorem half_upper (hl : l ≠ 0) : Half x y l (upper x y l) where
  area := by
    simp only [Triangle.area, Vertex.edge, upper]
    ring
  row i j := by
    simp only [Triangle.interpolate, upper, Vertex.edge, Triangle.center_eq]
    field_simp
    ring
  column i j := by
    simp only [Triangle.interpolate, upper, Vertex.edge, Triangle.center_eq]
    field_simp
    ring
  texels := by
    refine texels_eq ?_ ?_
    · simp only [Triangle.slope, upper]
      field_simp
      ring
    · simp only [Triangle.slope, upper]
      field_simp
      ring

end Square

/-! ## the draw calls of a firefly -/

namespace Firefly

section
variable {α : Type} [Scalar α] [Root α]

/-- What is blended when a firefly is drawn in a context with the given state. -/
def blends (f : Firefly α) (state : ContextState α) (m : Image) :
    List ((Nat × Nat) × Color α) :=
  ((state.replay (f.draws.take 4)).brush m).blends Quad.corners Quad.spritePoints Quad.indices
    m.width m.height

theorem paintAll_draws (f : Firefly α) (state : ContextState α) (m : Image) :
    state.paintAll f.draws m = blendAll state.blend (f.blends state m) m := by
  show ((state.replay (f.draws.take 4)).brush m).drawElements Quad.corners Quad.spritePoints
    Quad.indices m = _
  rw [Brush.drawElements_eq]
  rfl

end

section
variable [Root Rat]

/-- The length of an edge of the square. -/
def extent (f : Firefly Rat) : Rat := 32 * f.scale

/-- The center of a pixel is in the square.  Of its edges the upper one and the right one belong to
it. -/
def Covers (f : Firefly Rat) (px py : Nat) : Prop :=
  (f.x < px + 1 / 2 ∧ px + 1 / 2 ≤ f.x + f.extent) ∧
    f.y ≤ py + 1 / 2 ∧ py + 1 / 2 < f.y + f.extent

instance (f : Firefly Rat) (px py : Nat) : Decidable (f.Covers px py) :=
  inferInstanceAs (Decidable ((f.x < px + 1 / 2 ∧ px + 1 / 2 ≤ f.x + f.extent) ∧
    f.y ≤ py + 1 / 2 ∧ py + 1 / 2 < f.y + f.extent))

/-- The sprite, if there is one, and the filter: the one for shrinking where the square has fewer
pixels than the sprite has rows. -/
def sampler? (f : Firefly Rat) (texture : Option Texture) : Option (Image × TextureFilter) := do
  let texture ← texture
  let image ← texture.image
  return (image, if 1 < Root.sqrt ((image.height : Rat) / f.extent * (image.height / f.extent)) then
    texture.minFilter else texture.magFilter)

/-- The color that a firefly gives to a pixel. -/
def colorAt (f : Firefly Rat) (texture : Option Texture) (px py : Nat) : Color Rat :=
  match f.sampler? texture with
  | none => .white f.opacity
  | some (image, filter) =>
    (image.sample filter ((py + 1 / 2 - f.y) / f.extent) ((px + 1 / 2 - f.x) / f.extent)).modulate
      (.white f.opacity)

/-! ## what is blended -/

/-- A brush that is set up for a firefly on a screen. -/
structure Brushes (f : Firefly Rat) (width height : Nat) (s : Brush Rat) : Prop where
  transform : s.transform = .ortho 0 (width : Rat) height 0 (-1) 1 * f.modelView
  viewport : s.viewportWidth = width ∧ s.viewportHeight = height
  color : s.color = .white f.opacity

variable {f : Firefly Rat} {width height : Nat} {s : Brush Rat}

omit [Root Rat] in
theorem Brushes.project (h : f.Brushes width height s) (hw : 1 ≤ width) (hh : 1 ≤ height)
    (qx qy u v : Rat) :
    s.project (qx, qy, 0) (u, v) = ⟨f.x + f.scale * qx, f.y + f.scale * qy, u, v⟩ := by
  have hp : s.transform.applyPoint qx qy 0
      = ⟨2 * (f.x + f.scale * qx) / width - 1, 1 - 2 * (f.y + f.scale * qy) / height, 0, 1⟩ := by
    rw [h.transform]
    show (_ * f.modelView).apply ⟨qx, qy, 0, 1⟩ = _
    rw [Mat4.mul_apply, modelView, Mat4.place_apply, Mat4.ortho_apply hw hh]
  have hw : (width : Rat) ≠ 0 := by positivity
  have hh : (height : Rat) ≠ 0 := by positivity
  unfold Brush.project
  dsimp only
  rw [hp, h.viewport.1, h.viewport.2]
  simp only [Vertex.mk.injEq, and_true]
  constructor
  · show (_ / 1 + 1) * (1 / 2) * (width : Rat) = _
    field_simp
    ring
  · show (1 - _ / 1) * (1 / 2) * (height : Rat) = _
    field_simp
    ring

omit [Root Rat] in
theorem Brushes.triangles (h : f.Brushes width height s) (hw : 1 ≤ width) (hh : 1 ≤ height) :
    s.triangles Quad.corners Quad.spritePoints Quad.indices
      = [(Square.lower f.x f.y f.extent).flip, (Square.upper f.x f.y f.extent).flip] := by
  show [Triangle.mk (s.project (0, 0, 0) (0, 0)) (s.project (0, 32, 0) (1, 0))
      (s.project (32, 32, 0) (1, 1)),
    Triangle.mk (s.project (0, 0, 0) (0, 0)) (s.project (32, 32, 0) (1, 1))
      (s.project (32, 0, 0) (0, 1))] = _
  simp only [h.project hw hh, Square.lower, Square.upper, Triangle.flip, extent,
    mul_comm f.scale, zero_mul, add_zero]

/-- Both halves give a pixel the same color. -/
theorem Brushes.shade (h : f.Brushes width height s) {t : Triangle Rat}
    (ht : Square.Half f.x f.y f.extent t) (px py : Nat) :
    s.shade t (f.extent * f.extent) (s.sampler? t (f.extent * f.extent)) px py
      = f.colorAt s.texture px py := by
  have hs : s.sampler? t (f.extent * f.extent) = f.sampler? s.texture := by
    unfold Brush.sampler? Firefly.sampler?
    simp only [ht.texels]
  unfold Brush.shade colorAt
  rw [hs, h.color]
  cases f.sampler? s.texture with
  | none => rfl
  | some found =>
    dsimp only
    rw [ht.row, ht.column]

/-- A half blends each pixel once that it covers in the clip. -/
theorem Brushes.filter_half (h : f.Brushes width height s) (hl : f.extent ≠ 0)
    (hw : width < 2 ^ 32) (hh : height < 2 ^ 32) {t : Triangle Rat}
    (ht : Square.Half f.x f.y f.extent t) (columns rows px py : Nat) :
    (s.blendsOf columns rows t.flip).filter (fun k => k.1 = (px, py))
      = if (px < min width columns ∧ py < min height rows) ∧ t.covers px py = true then
          [((px, py), f.colorAt s.texture px py)]
        else [] := by
  have hpos : 0 < t.area := ht.area ▸ mul_self_pos.mpr hl
  have hmem : (px, py) ∈ t.pixels (min s.viewportWidth columns) (min s.viewportHeight rows) ↔
      (px < min width columns ∧ py < min height rows) ∧ t.covers px py = true := by
    rw [h.viewport.1, h.viewport.2, Triangle.mem_pixels hpos (by omega) (by omega), and_assoc]
  rw [s.filter_blendsOf _ _ (Square.flip_oriented? hl ht.area), h.shade ht]
  simp only [hmem]

omit [Root Rat] in
/-- Of the square, one half covers each pixel that has its center there, and the other does not. -/
theorem covers_halves (hl : 0 < f.extent) (px py : Nat) :
    (f.Covers px py ↔ (Square.lower f.x f.y f.extent).covers px py = true ∨
      (Square.upper f.x f.y f.extent).covers px py = true) ∧
    ¬ ((Square.lower f.x f.y f.extent).covers px py = true ∧
      (Square.upper f.x f.y f.extent).covers px py = true) := by
  rw [Square.covers_lower hl, Square.covers_upper hl]
  refine ⟨⟨?_, ?_⟩, ?_⟩
  · rintro ⟨⟨hleft, hright⟩, htop, hbottom⟩
    rcases le_or_gt ((px + 1 / 2 : Rat) - f.x) (py + 1 / 2 - f.y) with h | h
    · exact .inl ⟨hleft, hbottom, h⟩
    · exact .inr ⟨hright, htop, h⟩
  · rintro (⟨hleft, hbottom, h⟩ | ⟨hright, htop, h⟩)
    · exact ⟨⟨hleft, by linarith⟩, by linarith, hbottom⟩
    · exact ⟨⟨by linarith, hright⟩, htop, by linarith⟩
  · rintro ⟨⟨-, -, h⟩, -, -, h'⟩
    exact absurd h' (not_lt.mpr h)

/-- A pixel is blended once if it is in the clip and in the square, and never otherwise. -/
theorem Brushes.filter_blends (h : f.Brushes width height s) (hs : 0 < f.scale) (hw : 1 ≤ width)
    (hh : 1 ≤ height) (hw' : width < 2 ^ 32) (hh' : height < 2 ^ 32) (columns rows px py : Nat) :
    (s.blends Quad.corners Quad.spritePoints Quad.indices columns rows).filter
        (fun k => k.1 = (px, py))
      = if (px < min width columns ∧ py < min height rows) ∧ f.Covers px py then
          [((px, py), f.colorAt s.texture px py)]
        else [] := by
  have hl : 0 < f.extent := mul_pos (by norm_num) hs
  have hlower := h.filter_half hl.ne' hw' hh' (Square.half_lower hl.ne') columns rows px py
  have hupper := h.filter_half hl.ne' hw' hh' (Square.half_upper hl.ne') columns rows px py
  obtain ⟨hcovers, hone⟩ := covers_halves hl px py
  rw [Brush.blends, h.triangles hw hh, List.flatMap_cons, List.flatMap_cons, List.flatMap_nil,
    List.append_nil, List.filter_append, hlower, hupper]
  simp only [hcovers]
  by_cases hclip : px < min width columns ∧ py < min height rows
  · simp only [hclip, true_and]
    by_cases hlo : (Square.lower f.x f.y f.extent).covers px py = true
    · have hup := fun hup => hone ⟨hlo, hup⟩
      rw [if_pos hlo, if_neg hup, if_pos (.inl hlo), List.append_nil]
    · simp only [if_neg hlo, List.nil_append, or_iff_right hlo]
  · simp only [hclip, false_and, if_false, List.append_nil]

/-! ## on a canvas -/

/-- A context that is set up for a screen.  A viewport has 32 bits. -/
structure Screen (state : ContextState Rat) (width height : Nat) : Prop where
  columns : 1 ≤ width ∧ width < 2 ^ 32
  rows : 1 ≤ height ∧ height < 2 ^ 32
  viewport : state.viewport = some (width, height)
  projection : state.projection = .ortho 0 (width : Rat) height 0 (-1) 1

variable {state : ContextState Rat}

omit [Root Rat] in
theorem Screen.brushes (h : Screen state width height) (f : Firefly Rat) (m : Image) :
    f.Brushes width height ((state.replay (f.draws.take 4)).brush m) where
  transform := by
    show state.projection * f.modelView = _
    rw [h.projection]
  viewport := by
    show (state.viewport.getD (m.width, m.height)).1 = width ∧
      (state.viewport.getD (m.width, m.height)).2 = height
    rw [h.viewport]
    exact ⟨rfl, rfl⟩
  color := rfl

theorem Screen.filter_blends (h : Screen state width height) (hs : 0 < f.scale) (m : Image)
    (px py : Nat) :
    (f.blends state m).filter (fun k => k.1 = (px, py))
      = if (px < min width m.width ∧ py < min height m.height) ∧ f.Covers px py then
          [((px, py), f.colorAt state.activeTexture? px py)]
        else [] :=
  (h.brushes f m).filter_blends hs h.columns.1 h.rows.1 h.columns.2 h.rows.2 m.width m.height px py

/-- A firefly blends each pixel of its square once, and changes no other pixel. -/
theorem draws_square {s : Canvas Rat} {b : Binding} {t : CanvasSurface}
    (hb : s.current = some b) (hc : s.contexts.find? b.context = some state)
    (ht : s.surfaces.find? b.surface = some t) (h : Screen state width height)
    (hs : 0 < f.scale) :
    ∃ back, (s.run (Canvas.drawActions f.draws)).surfaces.find? b.surface
        = some { t with back := back } ∧
      back.SameSize t.back ∧ back = blendAll state.blend (f.blends state t.back) t.back ∧
      ∀ px py,
        (f.blends state t.back).filter (fun k => k.1 = (px, py))
          = (if (px < min width t.back.width ∧ py < min height t.back.height) ∧ f.Covers px py then
              [((px, py), f.colorAt state.activeTexture? px py)]
            else []) ∧
        back.get? px py
          = (if (px < min width t.back.width ∧ py < min height t.back.height) ∧ f.Covers px py then
              (t.back.get? px py).map (blend state.blend (f.colorAt state.activeTexture? px py))
            else t.back.get? px py) := by
  refine ⟨blendAll state.blend (f.blends state t.back) t.back, ?_, sameSize_blendAll .., rfl,
    fun px py => ⟨h.filter_blends hs t.back px py, ?_⟩⟩
  · rw [Canvas.run_draws hb hc]
    rw [← f.paintAll_draws]
    exact Table.find?_modify_self ht fun t => { t with back := state.paintAll f.draws t.back }
  · rw [get?_blendAll, h.filter_blends hs]
    split
    · rfl
    · exact congrFun Option.map_id _

end

/-- Exact on squares, of which alone a firefly takes roots. -/
instance : Root Rat where
  sqrt := Rat.sqrt

/-- A screen of 3 by 2 pixels. -/
def smallScreen : Canvas Rat :=
  Canvas.initial.run
    [.window 3 2, .call (.openDisplay Canvas.displayId),
      .call (.createContext Canvas.displayId Canvas.configId),
      .call (.createSurface Canvas.displayId Canvas.configId 0),
      .call (.makeCurrent Canvas.displayId (some { context := 1, surface := 2 })),
      .call (.draw (.setProjection (.ortho 0 (3 : Nat) (2 : Nat) 0 (-1) 1)))]

theorem draws_square_smallScreen :
    ∃ back, (smallScreen.run (Canvas.drawActions
        (ofMotion 1 0 0 false 1250).draws)).surfaces.find? 2 = some ⟨0, back⟩ ∧
      back.get? 0 0 = some .black ∧ back.get? 2 1 = some ⟨255, 255, 255, 255⟩ := by
  have hc : smallScreen.contexts.find? 1 = some { ContextState.initial with
      viewport := some (3, 2), projection := .ortho 0 (3 : Nat) (2 : Nat) 0 (-1) 1 } := rfl
  have hs : 0 < (ofMotion 1 0 0 false 1250 : Firefly Rat).scale := by decide +kernel
  obtain ⟨back, hf, -, -, hpixel⟩ :=
    draws_square (b := { context := 1, surface := 2 }) rfl hc rfl
      ⟨by decide, by decide, rfl, rfl⟩ hs
  refine ⟨back, hf, ?_, ?_⟩
  · rw [(hpixel 0 0).2, if_neg (by decide +kernel)]
    rfl
  · rw [(hpixel 2 1).2, if_pos (by decide +kernel)]
    decide +kernel

end Firefly
end FireflyOverlay
