import FireflyOverlay.Proofs.Canvas.Windows
import FireflyOverlay.Proofs.Drawing.Blends

/-!
# The pictures on a canvas

Whatever is called, and with whatever numbers, the images on a canvas stay in order.

* `Image.Opaque`       every pixel is opaque; drawing keeps it so (`Opaque.paint`), whatever the
                       colors are;
* `ContextState.UploadedBy`   every image of a texture came from an upload that was not refused
                       (`UploadedBy.replay`);
* `Canvas.opaque_back`, `Canvas.opaque_front`   the images behind and in front;
* `Canvas.isSome_viewport_of_bound`   a context that has been current has a viewport;
* `pictureLaws_run`    the laws of pictures, for every run.
-/

namespace FireflyOverlay

/-! ## opaque images -/

/-- No pixel lets light through. -/
def Image.Opaque (m : Image) : Prop := ∀ p ∈ m.pixels, p.a = 255

namespace Image

theorem opaque_replicate (width height : Nat) {p : Pixel} (h : p.a = 255) :
    (replicate width height p).Opaque := fun q hq => by
  obtain ⟨-, rfl⟩ := Array.mem_replicate.mp hq
  exact h

theorem opaque_black (width height : Nat) : (black width height).Opaque :=
  opaque_replicate width height rfl

theorem Opaque.modify {m : Image} (h : m.Opaque) (x y : Nat) {f : Pixel → Pixel}
    (hf : ∀ p, (f p).a = 255) : (m.modify x y f).Opaque := by
  unfold Image.modify
  split
  · intro q hq
    obtain ⟨i, hi, rfl⟩ := Array.mem_iff_getElem.mp hq
    rw [Array.getElem_modify]
    split
    · exact hf _
    · exact h _ (Array.getElem_mem _)
  · exact h

/-- Four bytes are stored for each pixel. -/
theorem size_toBytes (m : Image) : m.toBytes.size = 4 * m.width * m.height := by
  have hsum : m.toBytes.size = (m.pixels.toList.map fun _ => 4).sum := by
    rw [toBytes, Array.size_flatMap, ← Array.sum_toList, Array.toList_map]
    rfl
  rw [hsum, List.map_const', List.sum_replicate_nat, Array.length_toList, m.size_eq, Nat.mul_comm,
    Nat.mul_assoc]

theorem size_of_ofBytes? {width height : Nat} {bytes : Array UInt8} {m : Image}
    (h : ofBytes? width height bytes = some m) :
    4 * width * height ≤ bytes.size ∧ m.width = width ∧ m.height = height := by
  unfold ofBytes? at h
  split at h
  · next hle =>
    cases h
    exact ⟨hle, rfl, rfl⟩
  · cases h

end Image

variable {α : Type}

theorem a_blend [Scalar α] (f : Option BlendFunc) (k : Color α) (p : Pixel) :
    (blend f k p).a = 255 := by
  cases f <;> rfl

theorem Image.Opaque.blendAll [Scalar α] {m : Image} (h : m.Opaque) (f : Option BlendFunc)
    (ks : List ((Nat × Nat) × Color α)) : (FireflyOverlay.blendAll f ks m).Opaque := by
  induction ks generalizing m with
  | nil => exact h
  | cons k ks ih => exact ih (h.modify k.1.1 k.1.2 (a_blend f k.2))

namespace ContextState

variable [Scalar α] [Root α]

theorem opaque_paint (s : ContextState α) (c : DrawCall α) {m : Image} (h : m.Opaque) :
    (s.paint c m).Opaque := by
  cases c with
  | clear => exact Image.opaque_replicate m.width m.height rfl
  | drawElements indices =>
    show (if s.arrays then (s.brush m).drawElements _ _ indices m else m).Opaque
    split
    · rw [Brush.drawElements_eq]
      exact h.blendAll _ _
    · exact h
  | _ => exact h

end ContextState

/-! ## images of textures -/

namespace ContextState

theorem uploaded?_eq_some {width height : Nat} {rgba : Array UInt8} {m : Image} :
    uploaded? width height rgba = some m ↔
      ¬ (width = 0 ∨ height = 0) ∧ Image.ofBytes? width height rgba = some m := by
  unfold uploaded?
  split
  · next h => simp [h]
  · next h => simp [h]

theorem size_of_uploaded? {width height : Nat} {rgba : Array UInt8} {m : Image}
    (h : uploaded? width height rgba = some m) : m.width = width ∧ m.height = height :=
  (Image.size_of_ofBytes? (uploaded?_eq_some.mp h).2).2

/-- Every image of a texture came from an upload among the draw calls. -/
def UploadedBy (cs : List (DrawCall α)) (s : ContextState α) : Prop :=
  ∀ e ∈ s.textures, ∀ m, e.2.image = some m →
    ∃ rgba, .uploadTexture m.width m.height rgba ∈ cs ∧ uploaded? m.width m.height rgba = some m

variable {s : ContextState α} {cs : List (DrawCall α)}

theorem UploadedBy.mono (h : s.UploadedBy cs) {ds : List (DrawCall α)} (hc : cs ⊆ ds) :
    s.UploadedBy ds := fun e he m hm => by
  obtain ⟨rgba, hmem, hup⟩ := h e he m hm
  exact ⟨rgba, hc hmem, hup⟩

/-- A change of the bound texture finds it among the textures. -/
theorem mem_modifyBound {f : Texture → Texture} {e : TextureId × Texture}
    (h : e ∈ (s.modifyBound f).textures) :
    e ∈ s.textures ∨ ∃ old ∈ s.textures, e.2 = f old.2 := by
  unfold modifyBound at h
  split at h
  · obtain ⟨old, hold, rfl⟩ := List.mem_map.mp h
    split
    · exact .inr ⟨old, hold, rfl⟩
    · exact .inl hold
  · exact .inl h

theorem UploadedBy.apply (h : s.UploadedBy cs) (c : DrawCall α) :
    (s.apply c).UploadedBy (cs ++ [c]) := by
  have hs : s.UploadedBy (cs ++ [c]) := h.mono (List.subset_append_left cs [c])
  cases c with
  | generateTexture =>
    intro e he m hm
    rcases List.mem_append.mp he with he | he
    · exact hs e he m hm
    · obtain rfl := List.mem_singleton.mp he
      cases hm
  | setTextureFilters min mag =>
    intro e he m hm
    rcases mem_modifyBound he with he | ⟨old, hold, he⟩
    · exact hs e he m hm
    · rw [he] at hm
      exact hs old hold m hm
  | uploadTexture width height rgba =>
    unfold ContextState.apply
    dsimp only
    split
    · next image hup =>
      intro e he m hm
      rcases mem_modifyBound he with he | ⟨old, hold, he⟩
      · exact hs e he m hm
      · rw [he] at hm
        cases hm
        obtain ⟨rfl, rfl⟩ := size_of_uploaded? hup
        exact ⟨rgba, List.mem_append_right cs List.mem_cons_self, hup⟩
    · exact hs
  | _ => exact hs

theorem UploadedBy.replay (h : s.UploadedBy cs) (ds : List (DrawCall α)) :
    (s.replay ds).UploadedBy (cs ++ ds) := by
  induction ds generalizing s cs with
  | nil => exact (List.append_nil cs).symm ▸ h
  | cons d ds ih =>
    rw [List.append_cons]
    exact ih (h.apply d)

theorem uploadedBy_fresh [Scalar α] (viewport : Option (Nat × Nat)) :
    (fresh viewport : ContextState α).UploadedBy [] := fun _ he => absurd he List.not_mem_nil

end ContextState

namespace Canvas

variable [Scalar α] [Root α] {s s' : Canvas α}

/-! ## images of surfaces and windows -/

theorem opaque_painted {m : Image} (h : m.Opaque) (ks : List (Stroke α)) :
    (painted m ks).Opaque := by
  induction ks generalizing m with
  | nil => exact h
  | cons k ks ih => exact ih (k.state.opaque_paint k.call h)

theorem opaque_back (as : List (Action α)) {n : SurfaceId} {t : CanvasSurface}
    (h : (initial.run as).surfaces.find? n = some t) : t.back.Opaque := by
  rw [(surfaceHistory_run n as).back t h]
  exact opaque_painted (Image.opaque_black _ _) _

/-- What is shown was behind before. -/
theorem opaque_showings (as : List (Action α)) {k : Showing} (h : k ∈ showings .initial as) :
    k.image.Opaque := by
  obtain ⟨pre, c, r, post, -, -, hk⟩ := mem_seen.mp h
  obtain ⟨n, t, ht, rfl⟩ := exists_of_showing? hk
  exact opaque_back pre ht

theorem opaque_front (as : List (Action α)) {w : WindowId} {v : Window}
    (h : (initial.run as).windows[w]? = some v) : v.front.Opaque := by
  rw [((windowHistory_run as).window w v h).2]
  unfold lastShown
  split
  · next k hk =>
    exact opaque_showings as (List.mem_filter.mp (List.mem_of_getLast? hk)).1
  · exact Image.opaque_black _ _

/-- Every surface has pixels. -/
def Filled (s : Canvas α) : Prop :=
  ∀ n t, s.surfaces.find? n = some t → t.back.width ≠ 0 ∧ t.back.height ≠ 0

theorem Filled.change {c : Call α} {r : c.Reply} (h : s.Filled) (hi : Issued s)
    (hc : Change s c r s') : s'.Filled := by
  cases hc with
  | madeSurface ho hw hv =>
    intro n t hf
    rcases Table.find?_of_insert (hi.notMem (Nat.lt_add_one s.lastHandle)).2 hf with
      ⟨-, rfl⟩ | hold
    · exact not_or.mp hv
    · exact h n t hold
  | endedSurface => exact fun n t hf => h n t (Table.find?_of_erase hf)
  | @drawn c b state hcur =>
    intro n t hf
    obtain ⟨old, hold, ⟨-, rfl⟩ | ⟨-, rfl⟩⟩ := Table.find?_of_modify s.surfaces
      (fun t => { t with back := state.paint c t.back }) hf
    · obtain ⟨hw, hh⟩ := state.sameSize_paint c old.back
      show (state.paint c old.back).width ≠ 0 ∧ (state.paint c old.back).height ≠ 0
      rw [hw, hh]
      exact h n old hold
    · exact h n _ hold
  | _ => exact h

theorem Reachable.filled (h : s.Reachable) : s.Filled := by
  induction h with
  | initial => exact nofun
  | window width height _ ih => exact ih
  | call c h ih =>
    obtain ⟨r, -, hc⟩ := change_step c _
    exact ih.change h.issued hc

/-! ## viewports -/

omit [Scalar α] [Root α] in
theorem currentState?_of_stroke? {x : Exchange α} {k : Stroke α} (h : s.stroke? x = some k) :
    s.current = some k.binding ∧ s.contexts.find? k.binding.context = some k.state := by
  unfold stroke? at h
  split at h
  · obtain ⟨found, hfound, rfl⟩ := Option.map_eq_some_iff.mp h
    exact currentState?_eq_some.mp hfound
  · cases h

/-- A granted binding finds its surface. -/
theorem Change.boundSize {d : DisplayId} {b : Binding}
    (h : Change s (.makeCurrent d (some b)) true s') :
    ∃ size, boundSize? b.context s ⟨.makeCurrent d (some b), true⟩ = some size := by
  cases h with
  | refused hf hr ht => cases hr
  | @bound _ _ t ho hc ht =>
    refine ⟨(t.back.width, t.back.height), ?_⟩
    rw [boundSize?, if_pos rfl, ht]
    rfl

theorem isSome_firstSize (as : List (Action α)) {d : DisplayId} {b : Binding}
    (h : (⟨.makeCurrent d (some b), true⟩ : Exchange α) ∈ answers .initial as) :
    (firstSize b.context .initial as).isSome = true := by
  obtain ⟨pre, c, r, post, has, hr, hx⟩ := mem_seen.mp h
  obtain ⟨rfl, hr'⟩ := Exchange.mk.inj (Option.some.inj hx)
  cases hr'
  obtain ⟨r', hr', hc⟩ := change_step _ (initial.run pre)
  cases hr.symm.trans hr'
  obtain ⟨size, hsize⟩ := hc.boundSize
  have hmem : size ∈ seen (boundSize? b.context) initial as :=
    mem_seen.mpr ⟨pre, _, _, post, has, hr, hsize⟩
  rw [firstSize, List.isSome_head?]
  exact List.ne_nil_of_mem hmem

theorem isSome_viewport (as : List (Action α)) {n : ContextId} {state : ContextState α}
    (hb : (firstSize n .initial as).isSome = true)
    (h : (initial.run as).contexts.find? n = some state) : state.viewport.isSome = true := by
  have hfresh : (ContextState.fresh (α := α) (firstSize n .initial as)).viewport.isSome = true := hb
  rw [((contextHistory_run n as).state state h).1]
  exact ContextState.isSome_viewport_replay hfresh _

/-- A draw call is carried out in a context that has a viewport. -/
theorem isSome_viewport_strokes (as : List (Action α)) {k : Stroke α}
    (h : k ∈ strokes .initial as) : k.state.viewport.isSome = true := by
  obtain ⟨pre, c, r, post, -, -, hk⟩ := mem_seen.mp h
  obtain ⟨hcur, hc⟩ := currentState?_of_stroke? hk
  exact isSome_viewport pre ((contextHistory_run _ pre).current _ hcur rfl) hc

/-! ## the laws -/

/-- Of a run of a fresh canvas. -/
structure PictureLaws (as : List (Action α)) : Prop where
  /-- the image of a surface is opaque, has pixels, and is as large as its window -/
  back : ∀ n t, (initial.run as).surfaces.find? n = some t →
    t.back.Opaque ∧ t.back.width ≠ 0 ∧ t.back.height ≠ 0 ∧
      ∃ v, (initial.run as).windows[t.window]? = some v ∧ t.back.SameSize v.front
  /-- a window is opaque, and as large as it was opened -/
  front : ∀ (w : WindowId) v, (initial.run as).windows[w]? = some v →
    v.front.Opaque ∧ (sizes as)[w]? = some (v.front.width, v.front.height)
  /-- the image of a texture has pixels with four bytes each, from an upload that had as many -/
  texture : ∀ n state, (initial.run as).contexts.find? n = some state →
    ∀ e ∈ state.textures, ∀ m, e.2.image = some m →
      m.width ≠ 0 ∧ m.height ≠ 0 ∧ m.toBytes.size = 4 * m.width * m.height ∧
        ∃ rgba, .uploadTexture m.width m.height rgba
            ∈ (inContext n (strokes .initial as)).map Stroke.call ∧
          4 * m.width * m.height ≤ rgba.size ∧ Image.ofBytes? m.width m.height rgba = some m
  /-- a context that was ever current has a viewport -/
  viewport : ∀ d b state, ⟨.makeCurrent d (some b), true⟩ ∈ answers .initial as →
    (initial.run as).contexts.find? b.context = some state → state.viewport.isSome = true
  /-- no draw call takes the size of its target for a viewport -/
  drawn : ∀ k ∈ strokes .initial as, ∃ width height, k.state.viewport = some (width, height) ∧
    ∀ target, (k.state.brush target).viewportWidth = width ∧
      (k.state.brush target).viewportHeight = height

theorem pictureLaws_run (as : List (Action α)) : PictureLaws as where
  back n t h := by
    obtain ⟨hw, hh⟩ := (Reachable.initial.run as).filled n t h
    exact ⟨opaque_back as h, hw, hh, (Reachable.initial.run as).fitting n t h⟩
  front w v h := by
    refine ⟨opaque_front as h, ?_⟩
    rw [← windowSizes_run, List.getElem?_map, h]
    rfl
  texture n state h e he m hm := by
    have hfrom := (ContextState.uploadedBy_fresh (firstSize n .initial as)).replay
      ((inContext n (strokes .initial as)).map Stroke.call)
    rw [← ((contextHistory_run n as).state state h).1, List.nil_append] at hfrom
    obtain ⟨rgba, hmem, hup⟩ := hfrom e he m hm
    obtain ⟨hsize, hbytes⟩ := ContextState.uploaded?_eq_some.mp hup
    obtain ⟨hw, hh⟩ := not_or.mp hsize
    exact ⟨hw, hh, m.size_toBytes, rgba, hmem, (Image.size_of_ofBytes? hbytes).1, hbytes⟩
  viewport d b state hb h := isSome_viewport as (isSome_firstSize as hb) h
  drawn k hk := by
    obtain ⟨⟨width, height⟩, hv⟩ := Option.isSome_iff_exists.mp (isSome_viewport_strokes as hk)
    refine ⟨width, height, hv, fun target => ?_⟩
    rw [ContextState.brush, hv]
    exact ⟨rfl, rfl⟩

end Canvas
end FireflyOverlay
