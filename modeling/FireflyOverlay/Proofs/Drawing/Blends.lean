import Mathlib.Data.List.Nodup
import FireflyOverlay.Raster

/-!
# The pixels that a draw blends

A draw blends some pixels, one after the other, each with a color that does not depend on what was
there before.

* `Image.get?_modify`  a change of one pixel is seen at this pixel only;
* `Brush.blends`       the pixels that a draw blends, with their colors; `drawElements_eq` says that
                       the draw is nothing but these;
* `get?_blendAll`      a pixel after some blends: those of this pixel, one after the other;
* `filter_blendsOf`    one triangle blends a pixel once if it covers it, and never otherwise.
-/

namespace FireflyOverlay

namespace Image

variable {m : Image} {x y a b : Nat}

theorem index_inj (hx : x < m.width) (ha : a < m.width) :
    m.index x y = m.index a b ↔ x = a ∧ y = b := by
  constructor
  · intro h
    have hy : y = b := by
      have hd := congrArg (· / m.width) h
      simpa [index, Nat.mul_comm _ m.width, Nat.mul_add_div (Nat.zero_lt_of_lt hx),
        Nat.div_eq_of_lt hx, Nat.div_eq_of_lt ha] using hd
    subst hy
    exact ⟨Nat.add_left_cancel h, rfl⟩
  · rintro ⟨rfl, rfl⟩
    rfl

theorem get?_modify (m : Image) (x y : Nat) (f : Pixel → Pixel) (a b : Nat) :
    (m.modify x y f).get? a b = if (x, y) = (a, b) then (m.get? a b).map f else m.get? a b := by
  unfold modify
  by_cases hx : x < m.width
  · rw [if_pos hx]
    show (if a < m.width then (m.pixels.modify (m.index x y) f)[m.index a b]? else none) = _
    by_cases ha : a < m.width
    · rw [if_pos ha, Array.getElem?_modify, get?, if_pos ha]
      simp only [index_inj hx ha, Prod.mk.injEq]
    · rw [if_neg ha, get?, if_neg ha]
      split <;> rfl
  · rw [if_neg hx]
    split
    · next h =>
      cases h
      rw [get?, if_neg hx]
      rfl
    · rfl

end Image

variable {α : Type} [Scalar α]

/-! ## pixels of a triangle -/

namespace Triangle

theorem nodup_span (p q r : α) (limit : Nat) : (span p q r limit).Nodup := by
  unfold span
  dsimp only
  split
  · exact List.nodup_range'
  · exact List.nodup_nil

theorem nodup_pixels (t : Triangle α) (width height : Nat) : (t.pixels width height).Nodup := by
  refine List.Nodup.filter _ (List.nodup_flatMap.mpr ⟨fun y _ => ?_, ?_⟩)
  · exact (nodup_span ..).map fun _ _ h => (Prod.mk.inj h).1
  · refine (nodup_span ..).imp fun {y z} hyz p hy hz => hyz ?_
    obtain ⟨_, -, rfl⟩ := List.mem_map.mp hy
    obtain ⟨_, -, he⟩ := List.mem_map.mp hz
    exact (Prod.mk.inj he).2.symm

end Triangle

/-! ## blends -/

/-- The blends in order: each has a pixel and a color. -/
def blendAll (f : Option BlendFunc) (ks : List ((Nat × Nat) × Color α)) (m : Image) : Image :=
  ks.foldl (fun m k => m.modify k.1.1 k.1.2 (blend f k.2)) m

theorem blendAll_append (f : Option BlendFunc) (ks ls : List ((Nat × Nat) × Color α)) (m : Image) :
    blendAll f (ks ++ ls) m = blendAll f ls (blendAll f ks m) := List.foldl_append

theorem sameSize_blendAll (f : Option BlendFunc) (ks : List ((Nat × Nat) × Color α)) (m : Image) :
    (blendAll f ks m).SameSize m :=
  Image.sameSize_foldl (fun m _ => ⟨m.width_modify .., m.height_modify ..⟩) ks m

/-- A pixel sees the blends of this pixel. -/
theorem get?_blendAll (f : Option BlendFunc) (ks : List ((Nat × Nat) × Color α)) (m : Image)
    (x y : Nat) :
    (blendAll f ks m).get? x y = (m.get? x y).map fun p =>
      (ks.filter fun k => k.1 = (x, y)).foldl (fun p k => blend f k.2 p) p := by
  induction ks generalizing m with
  | nil =>
    show m.get? x y = (m.get? x y).map id
    rw [Option.map_id]
    rfl
  | cons k ks ih =>
    show (blendAll f ks (m.modify k.1.1 k.1.2 _)).get? x y = _
    rw [ih, Image.get?_modify, List.filter_cons]
    by_cases hk : k.1 = (x, y)
    · rw [if_pos hk, if_pos (decide_eq_true hk), Option.map_map]
      rfl
    · rw [if_neg hk, if_neg (by simpa using hk)]

namespace Brush

/-! ## the blends of a draw -/

variable [Root α]

/-- What a triangle blends on an image of the given size. -/
def blendsOf (s : Brush α) (width height : Nat) (t : Triangle α) :
    List ((Nat × Nat) × Color α) :=
  match t.oriented? with
  | none => []
  | some (t, area) =>
    (t.pixels (min s.viewportWidth width) (min s.viewportHeight height)).map fun p =>
      (p, s.shade t area (s.sampler? t area) p.1 p.2)

def blends (s : Brush α) (positions : List (α × α × α)) (spritePoints : List (α × α))
    (indices : List Nat) (width height : Nat) : List ((Nat × Nat) × Color α) :=
  (s.triangles positions spritePoints indices).flatMap (s.blendsOf width height)

theorem fill_eq (s : Brush α) (m : Image) (t : Triangle α) :
    s.fill m t = blendAll s.blend (s.blendsOf m.width m.height t) m := by
  unfold fill blendsOf
  cases t.oriented? with
  | none => rfl
  | some found =>
    dsimp only
    rw [blendAll, List.foldl_map]
    rfl

theorem drawElements_eq (s : Brush α) (positions : List (α × α × α)) (spritePoints : List (α × α))
    (indices : List Nat) (m : Image) :
    s.drawElements positions spritePoints indices m
      = blendAll s.blend (s.blends positions spritePoints indices m.width m.height) m := by
  have hall : ∀ (ts : List (Triangle α)) (k : Image), k.SameSize m →
      ts.foldl s.fill k = blendAll s.blend (ts.flatMap (s.blendsOf m.width m.height)) k := by
    intro ts
    induction ts with
    | nil => exact fun k _ => rfl
    | cons t ts ih =>
      intro k hk
      rw [List.foldl_cons, ih _ ((s.sameSize_fill k t).trans hk), fill_eq, hk.1, hk.2,
        List.flatMap_cons, blendAll_append]
  exact hall _ m (.refl m)

/-- A triangle blends a pixel once if it covers it, and never otherwise. -/
theorem filter_blendsOf (s : Brush α) (width height : Nat) {t t' : Triangle α} {area : α}
    (h : t.oriented? = some (t', area)) (p : Nat × Nat) :
    (s.blendsOf width height t).filter (fun k => k.1 = p)
      = if p ∈ t'.pixels (min s.viewportWidth width) (min s.viewportHeight height) then
          [(p, s.shade t' area (s.sampler? t' area) p.1 p.2)]
        else [] := by
  rw [blendsOf, h]
  dsimp only
  rw [List.filter_map]
  show List.map _ (List.filter (fun q => decide (q = p)) _) = _
  rw [List.filter_eq, (t'.nodup_pixels _ _).count]
  split <;> rfl

end Brush
end FireflyOverlay
