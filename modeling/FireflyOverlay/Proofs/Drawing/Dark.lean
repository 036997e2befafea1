import FireflyOverlay.Proofs.Renderer.Films
import FireflyOverlay.Proofs.Swarm.AnyOrder

/-!
# Dark frames

A firefly without opacity is drawn without a trace: every pixel that it blends stays as it is, in
exact arithmetic and also after rounding to bytes.  So a frame of such fireflies is what its clear
leaves.

* `Color.Dark`         a color without opacity; a texture seen through it is such a color
                       (`Brush.dark_blends`);
* `blendAll_black`     dark blends leave a black image black;
* `ContextState.paintAll_film`   frames, the last of which is dark, leave the image black.
-/

namespace FireflyOverlay

/-! ## dark colors -/

/-- It has no opacity, and no channel takes light away. -/
structure Color.Dark (k : Color Rat) : Prop where
  lit : k.Lit
  a : k.a = 0

/-- Nothing is added, not even half a step. -/
theorem Color.Dark.gain {k : Color Rat} (h : k.Dark) (c : Rat) : k.gain c = 0 := by
  have hhalf : ⌊255 * (c * 0) + 1 / 2⌋ = (0 : Int) := by
    rw [mul_zero, mul_zero, zero_add]
    exact Int.floor_eq_zero_iff.mpr ⟨by norm_num, by norm_num⟩
  rw [Color.gain, h.a, hhalf]
  rfl

theorem blend_dark {k : Color Rat} (h : k.Dark) : blend (some .additive) k .black = .black := by
  rw [blend_lit h.lit, h.gain, h.gain, h.gain, brighten_zero, brighten_zero, brighten_zero]
  rfl

theorem Image.modify_black (width height x y : Nat) {f : Pixel → Pixel} (h : f .black = .black) :
    (black width height).modify x y f = black width height := by
  refine ext_get? ⟨width_modify .., height_modify ..⟩ fun a b => ?_
  have hpixel : ∀ p, (black width height).get? a b = some p → p = .black := by
    intro p hp
    unfold get? at hp
    split at hp
    · exact (Array.mem_replicate.mp (Array.mem_of_getElem? hp)).2
    · cases hp
  rw [get?_modify]
  split
  · cases hp : (black width height).get? a b with
    | none => rfl
    | some p =>
      rw [hpixel p hp]
      exact congrArg some h
  · rfl

/-- Dark blends leave black as it is, however many there are. -/
theorem blendAll_black {ks : List ((Nat × Nat) × Color Rat)} (h : ∀ k ∈ ks, k.2.Dark)
    (width height : Nat) :
    blendAll (some .additive) ks (.black width height) = .black width height := by
  induction ks with
  | nil => rfl
  | cons k ks ih =>
    obtain ⟨hk, hks⟩ := List.forall_mem_cons.mp h
    show blendAll _ ks ((Image.black width height).modify k.1.1 k.1.2 (blend _ k.2)) = _
    rw [Image.modify_black width height _ _ (blend_dark hk)]
    exact ih hks

/-! ## dark draws -/

namespace Brush

variable {s : Brush Rat}

theorem dark_shade (h : s.color.Dark) (t : Triangle Rat) (area : Rat)
    (sampler : Option (Image × TextureFilter)) (x y : Nat) :
    (s.shade t area sampler x y).Dark := by
  refine ⟨lit_shade h.lit t area sampler x y, ?_⟩
  cases sampler with
  | none => exact h.a
  | some found =>
    show (found.1.sample found.2 _ _).a * s.color.a = 0
    rw [h.a, mul_zero]

theorem dark_blends [Root Rat] (h : s.color.Dark) (positions : List (Rat × Rat × Rat))
    (spritePoints : List (Rat × Rat)) (indices : List Nat) (width height : Nat) :
    ∀ k ∈ s.blends positions spritePoints indices width height, k.2.Dark := by
  intro k hk
  obtain ⟨t, -, hk⟩ := List.mem_flatMap.mp hk
  unfold blendsOf at hk
  split at hk
  · exact absurd hk List.not_mem_nil
  · obtain ⟨p, -, rfl⟩ := List.mem_map.mp hk
    exact dark_shade h ..

end Brush

theorem Firefly.dark_blends [Root Rat] {f : Firefly Rat} (h : f.opacity = 0)
    (state : ContextState Rat) (m : Image) : ∀ k ∈ f.blends state m, k.2.Dark := by
  have hcolor : ((state.replay (f.draws.take 4)).brush m).color = .white f.opacity := rfl
  have hdark : (Color.white f.opacity).Dark := ⟨Color.lit_white h.ge, h⟩
  exact Brush.dark_blends (hcolor ▸ hdark) _ _ _ _ _

/-! ## frames -/

theorem Scene.dimmedBy_through [Trig Rat] {scene : Scene Rat} {time : Nat}
    (h : scene.swarm.DimmedBy time) (fs : List Frame) :
    (scene.through fs).swarm.DimmedBy (time + fadingTime fs) := by
  induction fs generalizing scene time with
  | nil => exact h
  | cons f fs ih =>
    have hnext : (scene.after f.elapsed f.fading).swarm.DimmedBy
        (time + if f.fading then f.elapsed else 0) := h.advance f.elapsed f.fading scene.units
    rw [fadingTime_cons, ← Nat.add_assoc]
    exact ih hnext

namespace ContextState

section
variable {α : Type} [Scalar α]

omit [Scalar α] in
theorem replay_frameSetup (s : ContextState α) (texture : TextureId) :
    s.replay (frameSetup texture)
      = { s with texturing := true, boundTexture := some texture, blend := some .additive } := rfl

omit [Scalar α] in
theorem clearColor_apply (s : ContextState α) {c : DrawCall α} (h : ∀ k, c ≠ .setClearColor k) :
    (s.apply c).clearColor = s.clearColor := by
  have hm : ∀ f, (s.modifyBound f).clearColor = s.clearColor := fun f => by
    unfold modifyBound
    split <;> rfl
  cases c with
  | setClearColor k => exact absurd rfl (h k)
  | setTextureFilters min mag => exact hm _
  | uploadTexture width height rgba =>
    rcases s.apply_uploadTexture width height rgba with hs | ⟨f, hs⟩
    · rw [hs]
    · rw [hs, hm]
  | _ => rfl

omit [Scalar α] in
theorem clearColor_replay {cs : List (DrawCall α)} (h : ∀ c ∈ cs, ∀ k, c ≠ .setClearColor k)
    (s : ContextState α) : (s.replay cs).clearColor = s.clearColor := by
  induction cs generalizing s with
  | nil => rfl
  | cons c cs ih =>
    obtain ⟨hc, hcs⟩ := List.forall_mem_cons.mp h
    exact (ih hcs (s.apply c)).trans (s.clearColor_apply hc)

/-- No frame changes the color that it clears with. -/
theorem clearColor_replay_frame (texture : TextureId) (swarm : Swarm α) (s : ContextState α) :
    (s.replay (frameSetup texture ++ swarm.draws)).clearColor = s.clearColor := by
  refine clearColor_replay (fun c hc => ?_) s
  rcases List.mem_append.mp hc with hc | hc
  · simp only [frameSetup, List.mem_cons, List.not_mem_nil, or_false] at hc
    rcases hc with rfl | rfl | rfl | rfl <;> exact nofun
  · obtain ⟨f, -, hc⟩ := List.mem_flatMap.mp hc
    simp only [Firefly.draws, List.mem_cons, List.not_mem_nil, or_false] at hc
    rcases hc with rfl | rfl | rfl | rfl | rfl | rfl | rfl <;> exact nofun

theorem clearColor_replay_film [Trig α] (scene : Scene α) (fs : List Frame) (s : ContextState α) :
    (s.replay (scene.film fs)).clearColor = s.clearColor := by
  induction fs generalizing scene s with
  | nil => rfl
  | cons f fs ih =>
    show (s.replay (frameSetup _ ++ Swarm.draws _ ++ Scene.film _ fs)).clearColor = _
    rw [replay_append, ih, clearColor_replay_frame]

/-- The clear and the setup of a frame. -/
theorem paintAll_frameSetup [Root α] (s : ContextState α) (texture : TextureId) (m : Image) :
    s.paintAll (frameSetup texture) m = m.fill s.clearColor.toPixel := rfl

end

variable [Root Rat]

theorem paintAll_dark {s : ContextState Rat} (hc : s.clearColor = .opaqueBlack)
    (texture : TextureId) {swarm : Swarm Rat} (h : ∀ f ∈ swarm.fireflies, f.opacity = 0)
    (m : Image) :
    s.paintAll (frameSetup texture ++ swarm.draws) m = .black m.width m.height := by
  have hclear : m.fill s.clearColor.toPixel = .black m.width m.height := by
    rw [hc, show (Color.opaqueBlack : Color Rat).toPixel = .black by decide +kernel]
    rfl
  have hdark : ∀ k ∈ swarm.fireflies.flatMap fun f =>
      f.blends (s.replay (frameSetup texture)) (.black m.width m.height), k.2.Dark := by
    intro k hk
    obtain ⟨f, hf, hk⟩ := List.mem_flatMap.mp hk
    exact Firefly.dark_blends (h f hf) _ _ k hk
  rw [paintAll_append, paintAll_frameSetup, hclear, Swarm.draws, Firefly.paintAll_draws_flatMap,
    replay_frameSetup]
  exact blendAll_black hdark m.width m.height

variable [Trig Rat]

/-- **A dark frame is black**, whatever was drawn before it. -/
theorem paintAll_film {s : ContextState Rat} (hc : s.clearColor = .opaqueBlack)
    (scene : Scene Rat) (fs : List Frame) (f : Frame)
    (h : ∀ g ∈ (scene.through (fs ++ [f])).swarm.fireflies, g.opacity = 0) (m : Image) :
    s.paintAll (scene.film (fs ++ [f])) m = .black m.width m.height := by
  have hlast : (scene.through fs).film [f] = frameSetup scene.texture ++
      (scene.through (fs ++ [f])).swarm.draws := by
    rw [Scene.through_append]
    exact List.append_nil _
  have hsize : (s.paintAll (scene.film fs) m).SameSize m := s.sameSize_paintAll _ m
  rw [Scene.film_append, paintAll_append, hlast,
    paintAll_dark ((clearColor_replay_film scene fs s).trans hc) _ h, hsize.1, hsize.2]

end ContextState
end FireflyOverlay
