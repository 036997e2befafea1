import FireflyOverlay.Canvas.Strict
import FireflyOverlay.Raster

/-!
# Index lists

An index list is drawn group by group, three indices each.  Groups that name no corner with one of
their indices are left out, and the others go on as if those were not there.

* `Brush.group`          the indices of a group;
* `Brush.InRange`        all indices of a group name corners: `isSome_triangle?_iff` says that these
                         groups are triangles;
* `Brush.exists_rest`    a list is its groups, and at most two more indices;
* `Brush.drawElements_eq_foldl`   a draw is the draws of its groups, one after the other;
* `Brush.crashes`        a draw that does not end, because one of its groups does not;
* `indexLaws`            what may be added to a list, and where it may be cut.
-/

namespace FireflyOverlay
namespace Brush

/-! ## groups -/

def group (t : Nat × Nat × Nat) : List Nat := [t.1, t.2.1, t.2.2]

def InRange (corners : Nat) (t : Nat × Nat × Nat) : Prop :=
  t.1 < corners ∧ t.2.1 < corners ∧ t.2.2 < corners

instance (corners : Nat) : DecidablePred (InRange corners) := fun t =>
  inferInstanceAs (Decidable (t.1 < corners ∧ t.2.1 < corners ∧ t.2.2 < corners))

theorem triples_group_append (t : Nat × Nat × Nat) (l : List Nat) :
    triples (group t ++ l) = t :: triples l := rfl

theorem triples_short {l : List Nat} (h : l.length < 3) : triples l = [] := by
  match l, h with
  | [], _ | [_], _ | [_, _], _ => rfl

theorem triples_groups (ts : List (Nat × Nat × Nat)) (l : List Nat) :
    triples (ts.flatMap group ++ l) = ts ++ triples l := by
  induction ts with
  | nil => rfl
  | cons t ts ih =>
    rw [List.flatMap_cons, List.append_assoc, triples_group_append, ih, List.cons_append]

/-- Beside its groups, a list has two more indices at most. -/
theorem exists_rest (l : List Nat) :
    ∃ rest, l = (triples l).flatMap group ++ rest ∧ rest.length = l.length % 3 := by
  fun_induction triples l with
  | case1 i j k l ih =>
    obtain ⟨rest, hl, hrest⟩ := ih
    refine ⟨rest, congrArg (i :: j :: k :: ·) hl, ?_⟩
    rw [hrest, List.length_cons, List.length_cons, List.length_cons]
    omega
  | case2 l h =>
    refine ⟨l, rfl, ?_⟩
    match l, h with
    | [], _ | [_], _ | [_, _], _ => rfl
    | i :: j :: k :: l, h => exact absurd rfl (h i j k l)

/-- Between two groups a list may be cut. -/
theorem triples_append {l : List Nat} (h : 3 ∣ l.length) (l' : List Nat) :
    triples (l ++ l') = triples l ++ triples l' := by
  obtain ⟨rest, hl, hrest⟩ := exists_rest l
  rw [Nat.mod_eq_zero_of_dvd h, List.length_eq_zero_iff] at hrest
  rw [hrest, List.append_nil] at hl
  calc triples (l ++ l') = triples ((triples l).flatMap group ++ l') := by rw [← hl]
    _ = triples l ++ triples l' := triples_groups ..

theorem skipped_eq (corners : Nat) (l : List Nat) :
    skipped corners l = (triples l).filter (¬ InRange corners ·) := by
  refine List.filter_congr fun t _ => ?_
  simp only [InRange, Classical.not_and_iff_not_or_not, Nat.not_lt, ← Bool.decide_or, or_assoc]

/-! ## the triangles of a list -/

section
variable {α : Type} [Scalar α] (s : Brush α) (positions : List (α × α × α))
  (spritePoints : List (α × α))

theorem isSome_triangle?_iff (t : Nat × Nat × Nat) :
    (s.triangle? positions spritePoints t).isSome ↔ InRange positions.length t := by
  have hcorner : ∀ i, (s.corner? positions spritePoints i).isSome ↔ i < positions.length := by
    intro i
    rw [corner?, Option.isSome_map, isSome_getElem?]
  unfold triangle? InRange
  rw [← hcorner, ← hcorner, ← hcorner]
  cases s.corner? positions spritePoints t.1 with
  | none => simp
  | some a =>
    cases s.corner? positions spritePoints t.2.1 with
    | none => simp
    | some b => cases s.corner? positions spritePoints t.2.2 <;> simp

theorem triangle?_eq_some {t : Nat × Nat × Nat} {tri : Triangle α}
    (h : s.triangle? positions spritePoints t = some tri) :
    s.corner? positions spritePoints t.1 = some tri.a ∧
      s.corner? positions spritePoints t.2.1 = some tri.b ∧
      s.corner? positions spritePoints t.2.2 = some tri.c := by
  obtain ⟨a, ha, h⟩ := Option.bind_eq_some_iff.mp h
  obtain ⟨b, hb, h⟩ := Option.bind_eq_some_iff.mp h
  obtain ⟨c, hc, h⟩ := Option.bind_eq_some_iff.mp h
  obtain rfl := Option.some.inj h
  exact ⟨ha, hb, hc⟩

theorem triangle?_eq_none_iff (t : Nat × Nat × Nat) :
    s.triangle? positions spritePoints t = none ↔ ¬ InRange positions.length t := by
  rw [← s.isSome_triangle?_iff positions spritePoints, Bool.not_eq_true, Option.isSome_eq_false_iff,
    Option.isNone_iff_eq_none]

theorem triangles_group (t : Nat × Nat × Nat) :
    s.triangles positions spritePoints (group t)
      = (s.triangle? positions spritePoints t).toList := by
  show [t].filterMap (s.triangle? positions spritePoints) = _
  cases h : s.triangle? positions spritePoints t with
  | none => rw [List.filterMap_cons_none h]; rfl
  | some tri => rw [List.filterMap_cons_some h]; rfl

/-- They are those of the groups in range, one after the other. -/
theorem triangles_eq_flatMap (l : List Nat) :
    s.triangles positions spritePoints l
      = ((triples l).filter (InRange positions.length ·)).flatMap fun t =>
          s.triangles positions spritePoints (group t) := by
  show (triples l).filterMap (s.triangle? positions spritePoints) = _
  induction triples l with
  | nil => rfl
  | cons t ts ih =>
    by_cases h : InRange positions.length t
    · obtain ⟨tri, htri⟩ := Option.isSome_iff_exists.mp ((s.isSome_triangle?_iff ..).mpr h)
      rw [List.filterMap_cons_some htri, List.filter_cons, if_pos (decide_eq_true h),
        List.flatMap_cons, triangles_group, htri, ih]
      rfl
    · rw [List.filterMap_cons_none ((s.triangle?_eq_none_iff ..).mpr h), List.filter_cons,
        if_neg (by rwa [decide_eq_true_eq]), ih]

theorem triangles_append {l : List Nat} (h : 3 ∣ l.length) (l' : List Nat) :
    s.triangles positions spritePoints (l ++ l')
      = s.triangles positions spritePoints l ++ s.triangles positions spritePoints l' := by
  rw [triangles, triples_append h, List.filterMap_append]
  rfl

end

/-! ## draws -/

section
variable {α : Type} [Scalar α] [Root α] (s : Brush α) (positions : List (α × α × α))
  (spritePoints : List (α × α))

/-- A draw is the draws of its groups in range, one after the other. -/
theorem drawElements_eq_foldl (l : List Nat) (m : Image) :
    s.drawElements positions spritePoints l m
      = ((triples l).filter (InRange positions.length ·)).foldl
          (fun m t => s.drawElements positions spritePoints (group t) m) m := by
  unfold drawElements
  rw [triangles_eq_flatMap, List.foldl_flatMap]

theorem drawElements_append {l : List Nat} (h : 3 ∣ l.length) (l' : List Nat) (m : Image) :
    s.drawElements positions spritePoints (l ++ l') m
      = s.drawElements positions spritePoints l' (s.drawElements positions spritePoints l m) := by
  unfold drawElements
  rw [triangles_append _ _ _ h, List.foldl_append]

theorem drawElements_of_triples {l l' : List Nat}
    (h : (triples l).filter (InRange positions.length ·)
      = (triples l').filter (InRange positions.length ·)) (m : Image) :
    s.drawElements positions spritePoints l m = s.drawElements positions spritePoints l' m := by
  rw [drawElements_eq_foldl, h, ← drawElements_eq_foldl]

/-! ## draws that crash -/

/-- A triangle reaches for a pixel that is not there, or goes on from the last index of a texel. -/
def breaks (width height : Nat) (t : Triangle α) : Bool :=
  (s.reachedBy width height t).any (fun p => !(decide (p.1 < width) && decide (p.2 < height))) ||
    s.overcounts width height t

/-- A draw does not end. -/
def crashes (l : List Nat) (m : Image) : Bool :=
  (s.triangles positions spritePoints l).any (s.breaks m.width m.height)

theorem crashes_eq_any (l : List Nat) (m : Image) :
    s.crashes positions spritePoints l m
      = ((triples l).filter (InRange positions.length ·)).any fun t =>
          s.crashes positions spritePoints (group t) m := by
  unfold crashes
  rw [triangles_eq_flatMap, List.any_flatMap]

/-- It does not depend on the pixels that are there. -/
theorem crashes_congr (l : List Nat) {m k : Image} (h : m.SameSize k) :
    s.crashes positions spritePoints l m = s.crashes positions spritePoints l k := by
  unfold crashes
  rw [h.1, h.2]

end

end Brush

/-- These are the draws that crash on a canvas. -/
theorem ContextState.crashes_brush {α : Type} [Scalar α] [Root α] (s : ContextState α)
    (l : List Nat) (m : Image) :
    (s.overruns (.drawElements l) m || s.overcounts (.drawElements l) m)
      = (s.arrays && (s.brush m).crashes Quad.corners Quad.spritePoints l m) := by
  unfold overruns overcounts reached
  cases s.arrays with
  | false => rfl
  | true =>
    show (List.any (Brush.reached ..) _ || List.any _ _) = List.any _ _
    rw [Brush.reached, List.any_flatMap, Bool.eq_iff_iff]
    simp only [Bool.or_eq_true, List.any_eq_true, Brush.breaks, and_or_left, exists_or]

namespace Brush

/-! ## the laws -/

/-- What an index list draws, for corners of any number. -/
structure IndexLaws {α : Type} [Scalar α] [Root α] (s : Brush α) (positions : List (α × α × α))
    (spritePoints : List (α × α)) : Prop where
  /-- a list is its groups of three indices, and at most two more, -/
  groups : ∀ l, ∃ rest, l = (triples l).flatMap group ++ rest ∧ rest.length = l.length % 3
  /-- which are ignored -/
  ending : ∀ l rest m, 3 ∣ l.length → rest.length < 3 →
    s.drawElements positions spritePoints (l ++ rest) m = s.drawElements positions spritePoints l m
  /-- a group with an index that names no corner draws nothing; these groups are noted -/
  leftOut : ∀ t, ¬ InRange positions.length t →
    ∀ m, s.drawElements positions spritePoints (group t) m = m
  noted : ∀ l, skipped positions.length l = (triples l).filter (¬ InRange positions.length ·)
  /-- any other group draws the triangle of its corners, -/
  drawn : ∀ t, InRange positions.length t → ∃ tri : Triangle α,
    s.corner? positions spritePoints t.1 = some tri.a ∧
      s.corner? positions spritePoints t.2.1 = some tri.b ∧
      s.corner? positions spritePoints t.2.2 = some tri.c ∧
      ∀ m, s.drawElements positions spritePoints (group t) m = s.fill m tri
  /-- and a list draws these groups, one after the other -/
  oneByOne : ∀ l m, s.drawElements positions spritePoints l m
    = ((triples l).filter (InRange positions.length ·)).foldl
        (fun m t => s.drawElements positions spritePoints (group t) m) m
  /-- so two lists with the same groups in range draw the same, -/
  same : ∀ l l', (triples l).filter (InRange positions.length ·)
      = (triples l').filter (InRange positions.length ·) →
    ∀ m, s.drawElements positions spritePoints l m = s.drawElements positions spritePoints l' m
  /-- a list may be cut between two groups, -/
  append : ∀ l l' m, 3 ∣ l.length → s.drawElements positions spritePoints (l ++ l') m
    = s.drawElements positions spritePoints l' (s.drawElements positions spritePoints l m)
  /-- and groups out of range may be put there or taken away -/
  insert : ∀ (l l' : List Nat) (ts : List (Nat × Nat × Nat)) m, 3 ∣ l.length →
    (∀ t ∈ ts, ¬ InRange positions.length t) →
    s.drawElements positions spritePoints (l ++ ts.flatMap group ++ l') m
      = s.drawElements positions spritePoints (l ++ l') m
  /-- the image keeps its size -/
  size : ∀ l m, (s.drawElements positions spritePoints l m).SameSize m
  /-- a draw crashes if one of its groups in range does, on any image of this size -/
  crash : ∀ l m, s.crashes positions spritePoints l m
    = ((triples l).filter (InRange positions.length ·)).any fun t =>
        s.crashes positions spritePoints (group t) m
  crash_size : ∀ l m k, m.SameSize k →
    s.crashes positions spritePoints l m = s.crashes positions spritePoints l k

theorem indexLaws {α : Type} [Scalar α] [Root α] (s : Brush α) (positions : List (α × α × α))
    (spritePoints : List (α × α)) : IndexLaws s positions spritePoints where
  groups := exists_rest
  ending l rest m hl hrest := by
    rw [drawElements_append _ _ _ hl]
    unfold drawElements triangles
    rw [triples_short hrest]
    rfl
  leftOut t ht m := by
    unfold drawElements
    rw [triangles_group, (s.triangle?_eq_none_iff ..).mpr ht]
    rfl
  noted := skipped_eq positions.length
  drawn t ht := by
    obtain ⟨tri, htri⟩ := Option.isSome_iff_exists.mp
      ((s.isSome_triangle?_iff positions spritePoints t).mpr ht)
    obtain ⟨ha, hb, hc⟩ := s.triangle?_eq_some positions spritePoints htri
    refine ⟨tri, ha, hb, hc, fun m => ?_⟩
    unfold drawElements
    rw [triangles_group, htri]
    rfl
  oneByOne := s.drawElements_eq_foldl positions spritePoints
  same _ _ := s.drawElements_of_triples positions spritePoints
  append _ l' m h := s.drawElements_append positions spritePoints h l' m
  insert l l' ts m hl hts := by
    have hnone : ts.filter (InRange positions.length ·) = [] :=
      List.filter_eq_nil_iff.mpr fun t ht => by rw [decide_eq_true_eq]; exact hts t ht
    refine s.drawElements_of_triples positions spritePoints ?_ m
    rw [List.append_assoc, triples_append hl, triples_groups, triples_append hl,
      List.filter_append, List.filter_append, List.filter_append, hnone, List.nil_append]
  size l m := s.sameSize_drawElements positions spritePoints l m
  crash := s.crashes_eq_any positions spritePoints
  crash_size l _ _ h := s.crashes_congr positions spritePoints l h

end Brush
end FireflyOverlay
