import FireflyOverlay.Proofs.Drawing.Additive
import FireflyOverlay.Proofs.Drawing.Square
import FireflyOverlay.Proofs.Swarm.Reachable

/-!
# A swarm in any order

Where light is added up, a swarm looks the same in whatever order its fireflies are drawn.

* `Firefly.paintAll_draws_flatMap`   the draw calls of several fireflies: the blends of the one are
                       not affected by the draw calls of the others;
* `Canvas.surfaces_perm`   the images on a canvas after the fireflies in two orders;
* `additiveLaws`       the laws of additive blends, of the draws that make them, and of swarms.
-/

namespace FireflyOverlay

namespace Firefly

section
variable {α : Type} [Scalar α] [Root α]

omit [Root α] in
/-- A firefly is drawn in the state that its first calls leave. -/
theorem replay_take (f : Firefly α) (state : ContextState α) :
    state.replay (f.draws.take 4)
      = { state with modelView := f.modelView, color := .white f.opacity, arrays := true } := rfl

omit [Root α] in
theorem replay_draws (f : Firefly α) (state : ContextState α) :
    state.replay f.draws
      = { state with modelView := f.modelView, color := .opaqueWhite, arrays := false } := rfl

/-- What a firefly blends does not depend on the pixels that are there. -/
theorem blends_congr (f : Firefly α) (state : ContextState α) {m k : Image} (h : m.SameSize k) :
    f.blends state m = f.blends state k := by
  have hbrush : ∀ state : ContextState α, state.brush m = state.brush k := fun state => by
    unfold ContextState.brush
    rw [h.1, h.2]
  rw [blends, blends, hbrush, h.1, h.2]

/-- Every draw call of a firefly that matters to its blends is made again for the next one. -/
theorem blends_replay_draws (f g : Firefly α) (state : ContextState α) (m : Image) :
    f.blends (state.replay g.draws) m = f.blends state m := by
  rw [blends, replay_take, replay_draws, blends, replay_take]

theorem paintAll_draws_flatMap (fs : List (Firefly α)) (state : ContextState α) (m : Image) :
    state.paintAll (fs.flatMap draws) m
      = blendAll state.blend (fs.flatMap fun f => f.blends state m) m := by
  induction fs generalizing state m with
  | nil => rfl
  | cons f fs ih =>
    have hblend : (state.replay f.draws).blend = state.blend := by rw [replay_draws]
    have hrest : (fun g : Firefly α => g.blends (state.replay f.draws) (state.paintAll f.draws m))
        = fun g => g.blends state m := by
      funext g
      have hsize := state.sameSize_paintAll f.draws m
      exact (g.blends_replay_draws f state _).trans (g.blends_congr state hsize)
    rw [List.flatMap_cons, ContextState.paintAll_append, ih, hrest, hblend, paintAll_draws,
      ← blendAll_append, List.flatMap_cons]

end

variable [Root Rat] {f : Firefly Rat}

theorem allLit_blends (h : 0 ≤ f.opacity) (state : ContextState Rat) (m : Image) :
    AllLit (f.blends state m) := by
  have hcolor : ((state.replay (f.draws.take 4)).brush m).color = .white f.opacity := rfl
  exact Brush.allLit_blends (hcolor ▸ Color.lit_white h) _ _ _ _ _

/-- On an image, the order of fireflies does not matter. -/
theorem paintAll_perm {fs gs : List (Firefly Rat)} (hp : fs.Perm gs)
    (ho : ∀ f ∈ fs, 0 ≤ f.opacity) {state : ContextState Rat} (hf : state.blend = some .additive)
    (m : Image) : state.paintAll (fs.flatMap draws) m = state.paintAll (gs.flatMap draws) m := by
  have hlit : AllLit (fs.flatMap fun f => f.blends state m) := fun k hk => by
    obtain ⟨f, hfs, hk⟩ := List.mem_flatMap.mp hk
    exact allLit_blends (ho f hfs) state m k hk
  rw [paintAll_draws_flatMap, paintAll_draws_flatMap, hf]
  exact blendAll_perm (hp.flatMap_right _) hlit m

end Firefly

namespace Canvas

theorem run_draws_ignored {α : Type} [Scalar α] [Root α] {s : Canvas α}
    (h : s.currentState? = none) (cs : List (DrawCall α)) : s.run (drawActions cs) = s := by
  induction cs with
  | nil => rfl
  | cons c cs ih =>
    have hstep : (step (.draw c) s).2 = s := by
      show (s.draw c).2 = s
      simp only [draw, h]
    show (step (.draw c) s).2.run (drawActions cs) = s
    rw [hstep, ih]

/-- Additive blending is set in the context that is current, if there is one. -/
def AddsLight (s : Canvas Rat) : Prop :=
  ∀ b state, s.currentState? = some (b, state) → state.blend = some .additive

variable [Root Rat] {s : Canvas Rat}

theorem surfaces_perm (h : s.AddsLight) {fs gs : List (Firefly Rat)} (hp : fs.Perm gs)
    (ho : ∀ f ∈ fs, 0 ≤ f.opacity) :
    (s.run (drawActions (fs.flatMap Firefly.draws))).surfaces
      = (s.run (drawActions (gs.flatMap Firefly.draws))).surfaces := by
  cases hcur : s.currentState? with
  | none => rw [run_draws_ignored hcur, run_draws_ignored hcur]
  | some found =>
    obtain ⟨b, state⟩ := found
    obtain ⟨hb, hc⟩ := currentState?_eq_some.mp hcur
    have hf : state.blend = some .additive := h b state hcur
    rw [run_draws hb hc, run_draws hb hc]
    dsimp only
    congr 1
    funext t
    rw [Firefly.paintAll_perm hp ho hf]

end Canvas

/-- What additive blending does in exact arithmetic. -/
structure AdditiveLaws [Root Rat] [Trig Rat] : Prop where
  /-- the gains of all colors are added to what is there, and 255 is the most -/
  channels : ∀ (ks : List (Color Rat)) (p : Pixel), (∀ k ∈ ks, k.Lit) →
    (blendColors (some .additive) ks p).r.toNat
        = min 255 (p.r.toNat + (ks.map fun k => ⌊255 * (k.r * k.a) + 1 / 2⌋.toNat).sum) ∧
      (blendColors (some .additive) ks p).g.toNat
        = min 255 (p.g.toNat + (ks.map fun k => ⌊255 * (k.g * k.a) + 1 / 2⌋.toNat).sum) ∧
      (blendColors (some .additive) ks p).b.toNat
        = min 255 (p.b.toNat + (ks.map fun k => ⌊255 * (k.b * k.a) + 1 / 2⌋.toNat).sum)
  /-- white takes no light away, and none where it is seen through a texture -/
  white : ∀ opacity : Rat, 0 ≤ opacity → (Color.white opacity).Lit ∧
    ∀ (m : Image) (filter : TextureFilter) (u v : Rat),
      ((m.sample filter u v).modulate (.white opacity)).Lit
  /-- no draw makes a pixel darker -/
  brighter : ∀ (s : Brush Rat) (positions : List (Rat × Rat × Rat))
    (spritePoints : List (Rat × Rat)) (indices : List Nat) (m : Image),
    s.blend = some .additive → s.color.Lit → ∀ x y p, m.get? x y = some p →
      ∃ q, (s.drawElements positions spritePoints indices m).get? x y = some q ∧ p.NoDarker q
  /-- on any canvas, the order in which fireflies are drawn does not matter -/
  order : ∀ (s : Canvas Rat) (fs gs : List (Firefly Rat)), s.AddsLight → fs.Perm gs →
    (∀ f ∈ fs, 0 ≤ f.opacity) →
    (s.run (Canvas.drawActions (fs.flatMap Firefly.draws))).surfaces
      = (s.run (Canvas.drawActions (gs.flatMap Firefly.draws))).surfaces
  /-- nor does it for a swarm -/
  swarm : ∀ (s : Canvas Rat) (swarm : Swarm Rat), s.AddsLight → swarm.Reachable →
    ∀ fs : List (Firefly Rat), fs.Perm swarm.fireflies →
      (s.run (Canvas.drawActions (fs.flatMap Firefly.draws))).surfaces
        = (s.run (Canvas.drawActions swarm.draws)).surfaces

theorem additiveLaws [Root Rat] [Trig Rat] : AdditiveLaws where
  channels ks p h := by
    obtain ⟨hr, hg, hb⟩ := blendColors_lit h p
    rw [hr, hg, hb]
    exact ⟨toNat_brighten .., toNat_brighten .., toNat_brighten ..⟩
  white opacity h := ⟨Color.lit_white h, fun m filter u v =>
    (m.lit_sample filter u v).modulate (Color.lit_white h)⟩
  brighter s positions spritePoints indices m hf h x y p hp :=
    Brush.noDarker_drawElements hf h positions spritePoints indices hp
  order s fs gs h hp ho := Canvas.surfaces_perm h hp ho
  swarm s swarm h hs fs hp := Canvas.surfaces_perm h hp fun f hf =>
    hs.opacity_nonneg f (hp.mem_iff.mp hf)

end FireflyOverlay
