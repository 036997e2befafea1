import FireflyOverlay.Canvas.Checked
import FireflyOverlay.Proofs.Canvas.Windows
import FireflyOverlay.Proofs.Drawing.Blends
import FireflyOverlay.Proofs.Scalar.Single

/-!
# The pixels that a draw reaches for

A draw keeps below the size of its image and of the viewport, as far as floats can tell these from
other numbers.

* `ContextState.limits`   the lesser of the sizes of viewport and image, `ContextState.KeepsLimits`
                       says that neither is rounded up;
* `paint_eq_blendAll`  a draw blends the pixels that it reaches for;
* `lt_of_mem_reached`  they are below the limits, once these are rounded;
* `overruns_of_readBack_le`   so they are in the image if its size is not rounded up.
-/

namespace FireflyOverlay

namespace Brush

section
variable {α : Type} [Scalar α] [Root α]

theorem map_blendsOf (s : Brush α) (width height : Nat) (t : Triangle α) :
    (s.blendsOf width height t).map Prod.fst = s.reachedBy width height t := by
  unfold blendsOf reachedBy
  cases t.oriented? with
  | none => rfl
  | some found => exact (List.map_map ..).trans (List.map_id _)

theorem map_blends (s : Brush α) (positions : List (α × α × α)) (spritePoints : List (α × α))
    (indices : List Nat) (width height : Nat) :
    (s.blends positions spritePoints indices width height).map Prod.fst
      = s.reached positions spritePoints indices width height := by
  rw [blends, List.map_flatMap, reached]
  congr 1
  funext t
  exact s.map_blendsOf width height t

end

end Brush

namespace Triangle

theorem mem_spans {α : Type} [Scalar α] {t : Triangle α} {width height : Nat} {p : Nat × Nat}
    (h : p ∈ t.pixels width height) :
    p.1 ∈ span t.a.x t.b.x t.c.x width ∧ p.2 ∈ span t.a.y t.b.y t.c.y height := by
  obtain ⟨y, hy, h⟩ := List.mem_flatMap.mp (List.mem_filter.mp h).1
  obtain ⟨x, hx, rfl⟩ := List.mem_map.mp h
  exact ⟨hx, hy⟩

end Triangle

namespace Single

/-- The last column or row comes before the limit, once this is rounded. -/
theorem lt_of_mem_span {p q r : Float32} {limit i : Nat} (hl : limit < 2 ^ 64)
    (h : i ∈ Triangle.span p q r limit) : i < readBack limit := by
  unfold Triangle.span at h
  dsimp only at h
  split at h
  · have hlast := toIndex_least_le
      (Scalar.ceil (Scalar.greatest (Scalar.greatest p q) r)) (Scalar.ofNat limit)
    rw [toIndex_ofNat hl] at hlast
    have hi := List.mem_range'_1.mp h
    omega
  · exact absurd h List.not_mem_nil

end Single

namespace Brush

theorem lt_of_mem_reached (s : Brush Float32) (positions : List (Float32 × Float32 × Float32))
    (spritePoints : List (Float32 × Float32)) (indices : List Nat) {width height : Nat}
    (hw : width < 2 ^ 32) (hh : height < 2 ^ 32) {p : Nat × Nat}
    (h : p ∈ s.reached positions spritePoints indices width height) :
    p.1 < Single.readBack (min s.viewportWidth width) ∧
      p.2 < Single.readBack (min s.viewportHeight height) := by
  obtain ⟨t, -, h⟩ := List.mem_flatMap.mp h
  unfold reachedBy at h
  split at h
  · exact absurd h List.not_mem_nil
  · obtain ⟨hx, hy⟩ := Triangle.mem_spans h
    exact ⟨Single.lt_of_mem_span (by omega) hx, Single.lt_of_mem_span (by omega) hy⟩

end Brush

/-! ## one draw -/

namespace ContextState

section
variable {α : Type} [Scalar α]

/-- A draw keeps to the viewport and to the image. -/
def limits (s : ContextState α) (m : Image) : Nat × Nat :=
  (min (s.brush m).viewportWidth m.width, min (s.brush m).viewportHeight m.height)

/-- A draw is nothing but blends of the pixels that it reaches for. -/
theorem paint_eq_blendAll [Root α] (s : ContextState α) (indices : List Nat) (m : Image) :
    ∃ ks : List ((Nat × Nat) × Color α),
      ks.map Prod.fst = s.reached (.drawElements indices) m ∧
      s.paint (.drawElements indices) m = blendAll s.blend ks m := by
  unfold reached paint
  dsimp only
  split
  · exact ⟨(s.brush m).blends Quad.corners Quad.spritePoints indices m.width m.height,
      (s.brush m).map_blends .., (s.brush m).drawElements_eq ..⟩
  · exact ⟨[], rfl, rfl⟩

end

/-- No limit of a draw is read back as a greater one. -/
def KeepsLimits (s : ContextState Float32) (m : Image) : Prop :=
  Single.readBack (s.limits m).1 ≤ (s.limits m).1 ∧
    Single.readBack (s.limits m).2 ≤ (s.limits m).2

theorem lt_of_mem_reached (s : ContextState Float32) (c : DrawCall Float32) {m : Image}
    (hm : m.width < 2 ^ 32 ∧ m.height < 2 ^ 32) {p : Nat × Nat} (h : p ∈ s.reached c m) :
    p.1 < Single.readBack (s.limits m).1 ∧ p.2 < Single.readBack (s.limits m).2 := by
  cases c with
  | drawElements indices =>
    change p ∈ (if s.arrays then _ else _) at h
    split at h
    · exact (s.brush m).lt_of_mem_reached _ _ _ hm.1 hm.2 h
    · exact absurd h List.not_mem_nil
  | _ => exact absurd h List.not_mem_nil

theorem KeepsLimits.lt_of_mem_reached {s : ContextState Float32} {m : Image}
    (hs : s.KeepsLimits m) (hm : m.width < 2 ^ 32 ∧ m.height < 2 ^ 32) (c : DrawCall Float32)
    {p : Nat × Nat} (h : p ∈ s.reached c m) : p.1 < (s.limits m).1 ∧ p.2 < (s.limits m).2 := by
  obtain ⟨hx, hy⟩ := s.lt_of_mem_reached c hm h
  exact ⟨hx.trans_le hs.1, hy.trans_le hs.2⟩

/-- Where the size of the image is not rounded up, no viewport leads out of it. -/
theorem overruns_of_readBack_le (s : ContextState Float32) (c : DrawCall Float32) {m : Image}
    (hm : m.width < 2 ^ 32 ∧ m.height < 2 ^ 32)
    (h : Single.readBack m.width ≤ m.width ∧ Single.readBack m.height ≤ m.height) :
    s.overruns c m = false := by
  refine List.any_eq_false.mpr fun p hp => ?_
  obtain ⟨hx, hy⟩ := s.lt_of_mem_reached c hm hp
  have hcolumn : p.1 < m.width :=
    hx.trans_le ((Single.readBack_mono (Nat.min_le_right ..)).trans h.1)
  have hrow : p.2 < m.height :=
    hy.trans_le ((Single.readBack_mono (Nat.min_le_right ..)).trans h.2)
  simp [hcolumn, hrow]

end ContextState

/-! ## on a canvas -/

namespace Canvas

/-- Of the next draw: the state of the context and the image behind. -/
def target? {α : Type} (s : Canvas α) : Option (ContextState α × Image) :=
  s.currentState?.bind fun (b, state) =>
    (s.surfaces.find? b.surface).map fun t => (state, t.back)

theorem any_target {α : Type} (s : Canvas α) (p : ContextState α → Image → Bool) :
    (match s.currentState? with
      | some (b, state) => (s.surfaces.find? b.surface).any fun t => p state t.back
      | none => false) = s.target?.any fun (state, m) => p state m := by
  unfold target?
  cases s.currentState? with
  | none => rfl
  | some current =>
    show Option.any _ _ = Option.any _ (Option.map _ _)
    rw [Option.any_map]

theorem overruns_draw {α : Type} [Scalar α] (s : Canvas α) (c : DrawCall α) :
    s.overruns (.draw c) = s.target?.any fun (state, m) => state.overruns c m :=
  s.any_target fun state m => state.overruns c m

end Canvas

/-- Without overruns the check changes nothing. -/
theorem CheckedCanvas.step_eq {α : Type} [Scalar α] [Root α] {s : Canvas α} {c : Call α}
    (h : s.overruns c = false) :
    step c ⟨s⟩ = ((Canvas.step c s).1, ⟨(Canvas.step c s).2⟩) := by
  unfold step
  rw [h]
  rfl

end FireflyOverlay
