import Mathlib.Analysis.Convex.Segment
import FireflyOverlay.Proofs.Drawing.Windings

/-!
# Two triangles at one edge

Two triangles on the two sides of a common edge leave no gap along it and do not overlap, in exact
arithmetic.  Turned so that their areas are positive, they walk the edge in opposite directions, and
of the two directions exactly one lets a place pass.

* `side`, `Inside`       a place left or right of a line, and inside a triangle;
* `passes_swap`          an edge lets a place pass in exactly one of its two directions;
* `Triangle.reached`     the pixels that a triangle draws; they depend on the places of the corners
                         alone, in any order;
* `Brush.coats`          how often a triangle blends a pixel (`Brush.get?_fill`);
* `Neighbours.coats_eq_one`   together, two neighbours blend every pixel once at most, and those
                         inside either of them or on the edge exactly once.
-/

namespace FireflyOverlay

/-! ## places -/

section
variable {p q r c : Rat × Rat}

/-- Twice the signed area of the triangle of three places; its sign tells the side of the line from
`p` to `q` on which `r` lies. -/
def side (p q r : Rat × Rat) : Rat := (q.1 - p.1) * (r.2 - p.2) - (q.2 - p.2) * (r.1 - p.1)

/-- Strictly inside the triangle of three places: a mean of them with positive weights. -/
def Inside (p q r c : Rat × Rat) : Prop :=
  ∃ u v w : Rat, 0 < u ∧ 0 < v ∧ 0 < w ∧ u + v + w = 1 ∧ u • p + v • q + w • r = c

theorem side_rotate (p q r : Rat × Rat) : side q r p = side p q r := by
  unfold side
  ring

theorem side_swap (p q r : Rat × Rat) : side q p r = -side p q r := by
  unfold side
  ring

theorem side_self (p r : Rat × Rat) : side p p r = 0 := by
  unfold side
  ring

theorem Inside.swap (h : Inside p q r c) : Inside q p r c := by
  obtain ⟨u, v, w, hu, hv, hw, hs, hc⟩ := h
  exact ⟨v, u, w, hv, hu, hw, by rw [add_comm v, hs], by rw [add_comm (v • q), hc]⟩

/-- The areas over the edges of a mean are its weights. -/
theorem side_mean {u v w : Rat} (hs : u + v + w = 1) :
    side p q (u • p + v • q + w • r) = w * side p q r := by
  obtain rfl : u = 1 - v - w := by linarith
  simp only [side, Prod.fst_add, Prod.snd_add, Prod.smul_fst, Prod.smul_snd, smul_eq_mul]
  ring

end

/-! ## an edge in its two directions -/

namespace Vertex

/-- The place on the screen. -/
def place {α : Type} (p : Vertex α) : α × α := (p.x, p.y)

/-- The corner at a place, with no place on a sprite. -/
def ofPlace (p : Rat × Rat) : Vertex Rat := ⟨p.1, p.2, 0, 0⟩

theorem owns_swap {p q : Rat × Rat} (h : p ≠ q) :
    (ofPlace q).owns (ofPlace p) = !(ofPlace p).owns (ofPlace q) := by
  have hiff : (ofPlace q).owns (ofPlace p) = true ↔ ¬ (ofPlace p).owns (ofPlace q) = true := by
    rw [Triangle.owns_iff, Triangle.owns_iff]
    show q.2 < p.2 ∨ q.2 = p.2 ∧ q.1 < p.1 ↔ ¬ (p.2 < q.2 ∨ p.2 = q.2 ∧ p.1 < q.1)
    rcases lt_trichotomy p.2 q.2 with hy | hy | hy
    · simp [hy, hy.not_gt, hy.ne']
    · have hx : p.1 ≠ q.1 := fun hx => h (Prod.ext hx hy)
      rcases lt_or_gt_of_ne hx with hx | hx <;> simp [hy, hx, hx.not_gt]
    · simp [hy, hy.not_gt, hy.ne']
  rw [Bool.eq_not_iff]
  intro he
  rw [he] at hiff
  exact iff_not_self hiff

end Vertex

section
variable {p q c : Rat × Rat}
open Vertex

/-- The edge from `p` to `q` lets a place pass: it is on the inner side, or on an owned edge. -/
def passes (p q c : Rat × Rat) : Bool := (ofPlace p).admits (ofPlace q) c.1 c.2

theorem passes_iff : passes p q c = true ↔
    0 < side p q c ∨ side p q c = 0 ∧ (ofPlace p).owns (ofPlace q) = true :=
  Triangle.admits_iff

theorem passes_of_pos (h : 0 < side p q c) : passes p q c = true := passes_iff.mpr (.inl h)

theorem passes_of_neg (h : side p q c < 0) : passes p q c = false :=
  Bool.eq_false_iff.mpr fun hp => h.not_ge (Triangle.edge_nonneg hp)

theorem passes_of_zero (h : side p q c = 0) : passes p q c = (ofPlace p).owns (ofPlace q) := by
  rw [Bool.eq_iff_iff, passes_iff]
  simp [h]

/-- An edge lets a place pass in exactly one of its two directions. -/
theorem passes_swap (h : p ≠ q) (c : Rat × Rat) : passes q p c = !passes p q c := by
  have hs := side_swap p q c
  rcases lt_trichotomy (side p q c) 0 with he | he | he
  · rw [passes_of_neg he, passes_of_pos (by rw [hs]; exact neg_pos.mpr he)]
    rfl
  · rw [passes_of_zero he, passes_of_zero (by rw [hs, he, neg_zero]), owns_swap h]
  · rw [passes_of_pos he, passes_of_neg (by rw [hs]; exact neg_neg_of_pos he)]
    rfl

end

/-! ## the pixels of a triangle -/

namespace Triangle

variable {p q r s : Rat × Rat} {t t' : Triangle Rat} {i j width height : Nat}

def places {α : Type} (t : Triangle α) : List (α × α) := t.corners.map Vertex.place

/-- The triangle of three places. -/
def ofPlaces (p q r : Rat × Rat) : Triangle Rat := ⟨.ofPlace p, .ofPlace q, .ofPlace r⟩

theorem area_ofPlaces (p q r : Rat × Rat) : (ofPlaces p q r).area = side p q r := rfl

theorem covers_ofPlaces (p q r : Rat × Rat) (i j : Nat) : (ofPlaces p q r).covers i j =
    (passes q r (center i, center j) && passes r p (center i, center j) &&
      passes p q (center i, center j)) := rfl

/-- The pixels of a clip that a triangle draws. -/
def reached (t : Triangle Rat) (width height : Nat) : List (Nat × Nat) :=
  (t.oriented?.map fun o => o.1.pixels width height).getD []

theorem reached_ofPlaces (t : Triangle Rat) (width height : Nat) :
    (ofPlaces t.a.place t.b.place t.c.place).reached width height = t.reached width height := by
  have ha : (ofPlaces t.a.place t.b.place t.c.place).area = t.area := rfl
  unfold reached
  rcases lt_trichotomy t.area 0 with h | h | h
  · rw [oriented?_of_neg h, oriented?_of_neg (ha ▸ h)]
    rfl
  · rw [oriented?_of_zero h, oriented?_of_zero (ha ▸ h)]
  · rw [oriented?_of_pos h, oriented?_of_pos (ha ▸ h)]
    rfl

/-- The pixels that are drawn depend on the places of the corners alone, in any order. -/
theorem reached_of_perm (h : t.places.Perm t'.places) (width height : Nat) :
    t.reached width height = t'.reached width height := by
  rw [← reached_ofPlaces t, ← reached_ofPlaces t']
  exact congrArg (Option.getD · [])
    (map_oriented?_of_perm (fun t _ => t.pixels_rotate ..) (h.map Vertex.ofPlace))

theorem mem_reached (h : t.places.Perm [p, q, r]) (ha : 0 < side p q r) (hw : width ≤ 0xffffffff)
    (hh : height ≤ 0xffffffff) : (i, j) ∈ t.reached width height ↔
      i < width ∧ j < height ∧ (ofPlaces p q r).covers i j = true := by
  have hsame : t.reached width height = (ofPlaces p q r).reached width height :=
    reached_of_perm h width height
  rw [← area_ofPlaces] at ha
  rw [hsame, reached, oriented?_of_pos ha]
  exact mem_pixels ha hw hh

/-! ## at the common edge -/

/-- Inside a triangle, or on the open edge from `p` to `q`, this edge alone decides. -/
theorem covers_of_mean {u v w : Rat} (ha : 0 < side p q r) (hu : 0 < u) (hv : 0 < v)
    (hs : u + v + w = 1) (hc : u • p + v • q + w • r = (center i, center j)) :
    (ofPlaces p q r).covers i j = passes p q (center i, center j) := by
  have hqr : 0 < side q r (center i, center j) := by
    rw [← hc, add_assoc, add_comm, side_mean (by rw [← hs]; ring), side_rotate]
    exact mul_pos hu ha
  have hrp : 0 < side r p (center i, center j) := by
    rw [← hc, add_comm, ← add_assoc, side_mean (by rw [← hs]; ring), ← side_rotate]
    exact mul_pos hv ha
  rw [covers_ofPlaces, passes_of_pos hqr, passes_of_pos hrp]
  rfl

theorem covers_of_mem_openSegment (ha : 0 < side p q r)
    (h : (center i, center j) ∈ openSegment Rat p q) :
    (ofPlaces p q r).covers i j = passes p q (center i, center j) := by
  obtain ⟨u, v, hu, hv, hs, hc⟩ := h
  exact covers_of_mean ha hu hv (by rw [hs, add_zero]) (by rw [zero_smul, add_zero, hc])

theorem covers_of_inside (ha : 0 < side p q r) (h : Inside p q r (center i, center j)) :
    (ofPlaces p q r).covers i j = true := by
  obtain ⟨u, v, w, hu, hv, hw, hs, hc⟩ := h
  rw [covers_of_mean ha hu hv hs hc]
  refine passes_of_pos ?_
  rw [← hc, side_mean hs]
  exact mul_pos hw ha

theorem passes_of_covers (h : (ofPlaces p q r).covers i j = true) :
    passes p q (center i, center j) = true := (covers_iff.mp h).2.2

theorem not_covers_of_covers (hne : p ≠ q) (h : (ofPlaces p q r).covers i j = true) :
    (ofPlaces q p s).covers i j = false := by
  have hswap := passes_swap hne (center i, center j)
  rw [passes_of_covers h] at hswap
  refine Bool.eq_false_iff.mpr fun h' => ?_
  rw [passes_of_covers h'] at hswap
  exact absurd hswap (by decide)

/-- Inside one of the triangles on the two sides of an edge from `p` to `q`, or on the open edge. -/
def InsideEither (p q r s c : Rat × Rat) : Prop :=
  Inside p q r c ∨ Inside p q s c ∨ c ∈ openSegment Rat p q

theorem InsideEither.swap {c : Rat × Rat} (h : InsideEither p q r s c) :
    InsideEither q p r s c := by
  rcases h with h | h | h
  · exact .inl h.swap
  · exact .inr (.inl h.swap)
  · exact .inr (.inr (by rwa [openSegment_symm]))

theorem covers_eq_not (hne : p ≠ q) (ha : 0 < side p q r) (hb : 0 < side q p s)
    (h : InsideEither p q r s (center i, center j)) :
    (ofPlaces q p s).covers i j = !(ofPlaces p q r).covers i j := by
  rcases h with h | h | h
  · have hc := covers_of_inside ha h
    rw [not_covers_of_covers hne hc, hc]
    rfl
  · have hc := covers_of_inside hb h.swap
    rw [not_covers_of_covers hne.symm hc, hc]
    rfl
  · have h' : (center i, center j) ∈ openSegment Rat q p := by rwa [openSegment_symm]
    rw [covers_of_mem_openSegment ha h, covers_of_mem_openSegment hb h', passes_swap hne]

end Triangle

/-! ## how often a pixel is blended -/

section
variable [Root Rat]

/-- How often a triangle blends a pixel of an image of the given size. -/
def Brush.coats (b : Brush Rat) (width height : Nat) (t : Triangle Rat) (i j : Nat) : Nat :=
  (b.blendsOf width height t).countP fun k => k.1 = (i, j)

theorem Brush.coats_eq (b : Brush Rat) (width height : Nat) (t : Triangle Rat) (i j : Nat) :
    b.coats width height t i j =
      if (i, j) ∈ t.reached (min b.viewportWidth width) (min b.viewportHeight height) then 1
      else 0 := by
  unfold coats Triangle.reached
  rw [List.countP_eq_length_filter]
  cases ho : t.oriented? with
  | none =>
    rw [blendsOf, ho]
    rfl
  | some o =>
    rw [filter_blendsOf b width height ho, apply_ite List.length]
    rfl

/-- A pixel of a filled image was blended as often. -/
theorem Brush.get?_fill (b : Brush Rat) (m : Image) (t : Triangle Rat) (i j : Nat) :
    ∃ ks : List (Color Rat), ks.length = b.coats m.width m.height t i j ∧
      (b.fill m t).get? i j
        = (m.get? i j).map fun p => ks.foldl (fun p k => FireflyOverlay.blend b.blend k p) p := by
  refine ⟨((b.blendsOf m.width m.height t).filter fun k => k.1 = (i, j)).map Prod.snd, ?_, ?_⟩
  · rw [List.length_map, coats, List.countP_eq_length_filter]
  · rw [fill_eq, get?_blendAll]
    simp only [List.foldl_map]

end

/-- Two triangles on the two sides of a common edge from `p` to `q`, their other corners at `r` and
`s`.  The corners of each come in any order, with any places on a sprite. -/
structure Neighbours (t t' : Triangle Rat) (p q r s : Rat × Rat) : Prop where
  left : t.places.Perm [p, q, r]
  right : t'.places.Perm [p, q, s]
  opposite : side p q r * side p q s < 0

namespace Neighbours

variable {t t' : Triangle Rat} {p q r s : Rat × Rat} {i j width height : Nat}
open Triangle

theorem ne (h : Neighbours t t' p q r s) : p ≠ q := by
  rintro rfl
  exact absurd h.opposite (by rw [side_self, zero_mul]; exact lt_irrefl 0)

/-- The edge may be read from either end. -/
theorem swap (h : Neighbours t t' p q r s) : Neighbours t t' q p r s where
  left := h.left.trans (List.Perm.swap ..)
  right := h.right.trans (List.Perm.swap ..)
  opposite := by
    rw [side_swap p q r, side_swap p q s, neg_mul_neg]
    exact h.opposite

section
variable [Root Rat] {b : Brush Rat}

theorem coats_of_pos (h : Neighbours t t' p q r s) (ha : 0 < side p q r)
    (hw : width ≤ 0xffffffff) (hh : height ≤ 0xffffffff) :
    b.coats width height t i j + b.coats width height t' i j ≤ 1 ∧
      (i < min b.viewportWidth width → j < min b.viewportHeight height →
        InsideEither p q r s (center i, center j) →
        b.coats width height t i j + b.coats width height t' i j = 1) := by
  have hb : 0 < side q p s := by
    rw [side_swap, neg_pos]
    exact neg_of_mul_neg_right h.opposite ha.le
  have hw : min b.viewportWidth width ≤ 0xffffffff := (min_le_right ..).trans hw
  have hh : min b.viewportHeight height ≤ 0xffffffff := (min_le_right ..).trans hh
  rw [Brush.coats_eq, Brush.coats_eq]
  simp only [mem_reached h.left ha hw hh, mem_reached h.swap.right hb hw hh]
  constructor
  · split
    · next hl => rw [if_neg (by simp [not_covers_of_covers h.ne hl.2.2])]
    · split <;> decide
  · intro hi hj hplace
    rw [covers_eq_not h.ne ha hb hplace]
    cases (ofPlaces p q r).covers i j <;> simp [hi, hj]

/-- The blends of two triangles that are filled one after the other. -/
theorem get?_fill_fill (b : Brush Rat) (m : Image) (t t' : Triangle Rat) (i j : Nat) :
    ∃ ks : List (Color Rat),
      ks.length = b.coats m.width m.height t i j + b.coats m.width m.height t' i j ∧
      (b.fill (b.fill m t) t').get? i j
        = (m.get? i j).map fun p => ks.foldl (fun p k => blend b.blend k p) p := by
  obtain ⟨ks, hks, hfirst⟩ := b.get?_fill m t i j
  obtain ⟨ls, hls, hsecond⟩ := b.get?_fill (b.fill m t) t' i j
  obtain ⟨hwidth, hheight⟩ := b.sameSize_fill m t
  rw [hwidth, hheight] at hls
  refine ⟨ks ++ ls, by rw [List.length_append, hks, hls], ?_⟩
  rw [hsecond, hfirst, Option.map_map]
  simp only [List.foldl_append, Function.comp_def]

theorem coats_eq_one_of_inside (h : Neighbours t t' p q r s) (hw : width ≤ 0xffffffff)
    (hh : height ≤ 0xffffffff) :
    b.coats width height t i j + b.coats width height t' i j ≤ 1 ∧
      (i < min b.viewportWidth width → j < min b.viewportHeight height →
        InsideEither p q r s (center i, center j) →
        b.coats width height t i j + b.coats width height t' i j = 1) := by
  rcases lt_trichotomy (side p q r) 0 with ha | ha | ha
  · have hpos : 0 < side q p r := by
      rw [side_swap]
      exact neg_pos.mpr ha
    obtain ⟨hle, heq⟩ := h.swap.coats_of_pos (b := b) (i := i) (j := j) hpos hw hh
    exact ⟨hle, fun hi hj hplace => heq hi hj hplace.swap⟩
  · exact absurd h.opposite (by rw [ha, zero_mul]; exact lt_irrefl 0)
  · exact h.coats_of_pos ha hw hh

/-- **Two neighbours make up one area**: no pixel is blended by both, and one of the clip whose
center is inside either of them or on the open edge between them is blended by exactly one, once.
These are the blends that a pixel has got when both are filled. -/
theorem coats_eq_one (h : Neighbours t t' p q r s) (b : Brush Rat) (hw : width ≤ 0xffffffff)
    (hh : height ≤ 0xffffffff) (i j : Nat) :
    b.coats width height t i j + b.coats width height t' i j ≤ 1 ∧
      (i < min b.viewportWidth width → j < min b.viewportHeight height →
        InsideEither p q r s (center i, center j) →
        b.coats width height t i j + b.coats width height t' i j = 1) ∧
      ∀ m : Image, m.width = width → m.height = height → ∃ ks : List (Color Rat),
        ks.length = b.coats width height t i j + b.coats width height t' i j ∧
        (b.fill (b.fill m t) t').get? i j
          = (m.get? i j).map fun p => ks.foldl (fun p k => blend b.blend k p) p := by
  obtain ⟨hle, heq⟩ := h.coats_eq_one_of_inside (b := b) (i := i) (j := j) hw hh
  refine ⟨hle, heq, ?_⟩
  rintro m rfl rfl
  exact get?_fill_fill b m t t' i j

end

/-- The first pixel of a square lies on its diagonal. -/
theorem coats_eq_one_diagonal :
    Brush.striped.coats 2 2 ⟨⟨0, 0, 0, 0⟩, ⟨2, 0, 1, 0⟩, ⟨2, 2, 1, 1⟩⟩ 0 0 +
      Brush.striped.coats 2 2 ⟨⟨0, 2, 0, 1⟩, ⟨2, 2, 1, 1⟩, ⟨0, 0, 0, 0⟩⟩ 0 0 = 1 := by
  have h : Neighbours ⟨⟨0, 0, 0, 0⟩, ⟨2, 0, 1, 0⟩, ⟨2, 2, 1, 1⟩⟩
      ⟨⟨0, 2, 0, 1⟩, ⟨2, 2, 1, 1⟩, ⟨0, 0, 0, 0⟩⟩ (0, 0) (2, 2) (2, 0) (0, 2) :=
    ⟨by decide, by decide, by decide +kernel⟩
  have hdiagonal : ((center 0, center 0) : Rat × Rat) ∈ openSegment Rat (0, 0) (2, 2) :=
    ⟨3 / 4, 1 / 4, by norm_num, by norm_num, by norm_num, by decide +kernel⟩
  exact (h.coats_eq_one Brush.striped (by decide) (by decide) 0 0).2.1 (by decide) (by decide)
    (.inr (.inr hdiagonal))

end Neighbours
end FireflyOverlay
