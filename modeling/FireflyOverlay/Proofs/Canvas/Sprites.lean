import FireflyOverlay.Proofs.Canvas.Blackout
import FireflyOverlay.Proofs.Canvas.Plain
import FireflyOverlay.Proofs.Canvas.Uploads

/-!
# Sprites that cannot be read

A sprite is loaded into a texture of its own.  Where it cannot be read or decoded, the texture is
left without an image, and all that is drawn with it is drawn plain.

* `Image.ofBytes?_toBytes`    an image survives its upload;
* `ContextState.withTexture`  what loading makes of a context (`outcome_loadSprite`);
* `Canvas.Imageless`          a texture without an image, which it stays until an image is uploaded;
* `StaysIn`                   calls that bind no other context, and upload nothing;
* `softLoadLaws`              what is loaded, what is drawn with it, and what a whole run shows.
-/

namespace FireflyOverlay

variable {α : Type}

/-! ## the bytes of an upload -/

namespace Image

theorem getElem?_flatMap_toList (ps : List Pixel) (i : Nat) {j : Nat} (hj : j < 4) :
    (ps.flatMap Pixel.toList)[4 * i + j]? = ps[i]?.bind fun p => p.toList[j]? := by
  induction ps generalizing i with
  | nil => rfl
  | cons p ps ih =>
    have hlength : p.toList.length = 4 := rfl
    rw [List.flatMap_cons]
    cases i with
    | zero =>
      rw [Nat.mul_zero, Nat.zero_add, List.getElem?_append_left (hlength.symm ▸ hj)]
      rfl
    | succ i =>
      have hindex : 4 * (i + 1) + j - p.toList.length = 4 * i + j := by omega
      rw [List.getElem?_append_right (by omega), hindex, ih, List.getElem?_cons_succ]

theorem pixelAt_toBytes (m : Image) {i : Nat} (h : i < m.pixels.size) :
    pixelAt m.toBytes i = m.pixels[i] := by
  have hlist : m.toBytes.toList = m.pixels.toList.flatMap Pixel.toList := by
    rw [toBytes, Array.toList_flatMap]
  have hbyte : ∀ j, (hj : j < 4) → m.toBytes.getD (4 * i + j) 0 = m.pixels[i].toList[j] := by
    intro j hj
    rw [Array.getD_eq_getD_getElem?, ← Array.getElem?_toList, hlist,
      getElem?_flatMap_toList _ _ hj, Array.getElem?_toList, Array.getElem?_eq_getElem h]
    show (m.pixels[i].toList[j]?).getD 0 = _
    rw [List.getElem?_eq_getElem (show j < m.pixels[i].toList.length from hj)]
    rfl
  rw [pixelAt, show 4 * i = 4 * i + 0 from rfl, hbyte 0 (by decide), hbyte 1 (by decide),
    hbyte 2 (by decide), hbyte 3 (by decide)]
  rfl

theorem ofBytes?_toBytes (m : Image) : ofBytes? m.width m.height m.toBytes = some m := by
  obtain ⟨width, height, pixels, hsize⟩ := m
  rw [ofBytes?, if_pos (Nat.le_of_eq (size_toBytes _).symm)]
  refine congrArg some ?_
  congr
  refine Array.ext (by simp [hsize]) fun i h h' => ?_
  rw [Array.getElem_ofFn]
  exact pixelAt_toBytes ⟨width, height, pixels, hsize⟩ h'

end Image

/-! ## loading -/

/-- The draw calls that load a sprite into the texture. -/
def loadDraws (texture : TextureId) (decoder : ImageDecoder) (assets : AssetStore) (name : String) :
    List (DrawCall α) :=
  [.generateTexture, .bindTexture texture] ++ spriteDraws decoder assets name

theorem paints_of_mem_loadDraws {texture : TextureId} {decoder : ImageDecoder}
    {assets : AssetStore} {name : String} {c : DrawCall α}
    (h : c ∈ loadDraws texture decoder assets name) : c.paints = false := by
  unfold loadDraws spriteDraws at h
  split at h <;> simp only [uploadSprite, List.mem_append, List.mem_cons, List.not_mem_nil,
    or_false] at h
  · rcases h with rfl | rfl <;> rfl
  · rcases h with (rfl | rfl) | rfl | rfl <;> rfl

namespace ContextState

/-- One more texture, which is bound, with an image if there is one. -/
def withTexture (s : ContextState α) (image : Option Image) : ContextState α :=
  { s with
    lastTexture := s.lastTexture + 1
    textures := s.textures.insert (s.lastTexture + 1) ⟨.linear, .linear, image⟩
    boundTexture := some (s.lastTexture + 1) }

theorem modifyBound_withTexture {s : ContextState α} (h : s.Named) (image : Option Image)
    (f : Texture → Texture) : (s.withTexture image).modifyBound f =
      { s.withTexture image with
        textures := s.textures.insert (s.lastTexture + 1) (f ⟨.linear, .linear, image⟩) } := by
  rw [← Table.modify_insert h.notMem]
  rfl

/-- The image is the one that was read. -/
theorem replay_loadDraws {s : ContextState α} (h : s.Named) (decoder : ImageDecoder)
    (assets : AssetStore) (name : String) :
    s.replay (loadDraws (s.lastTexture + 1) decoder assets name)
      = s.withTexture (readImage decoder assets name).toOption := by
  unfold loadDraws spriteDraws
  cases hread : readImage decoder assets name with
  | error e => rfl
  | ok m =>
    obtain ⟨hw, hh⟩ := size_of_readImage hread
    have hup : uploaded? m.width m.height m.toBytes = some m :=
      uploaded?_eq_some.mpr ⟨by omega, m.ofBytes?_toBytes⟩
    have hfilters : (s.withTexture none).apply (.setTextureFilters .linear .linear)
        = s.withTexture none := modifyBound_withTexture h none _
    show ((s.withTexture none).apply (.setTextureFilters .linear .linear)).apply
      (.uploadTexture m.width m.height m.toBytes) = s.withTexture (some m)
    rw [hfilters, apply_of_accepted _ hup, modifyBound_withTexture h]
    rfl

theorem paintAll_of_not_paints [Scalar α] [Root α] (s : ContextState α) {cs : List (DrawCall α)}
    (h : ∀ c ∈ cs, c.paints = false) (m : Image) : s.paintAll cs m = m := by
  induction cs generalizing s m with
  | nil => rfl
  | cons c cs ih =>
    obtain ⟨hc, hcs⟩ := List.forall_mem_cons.mp h
    show (s.apply c).paintAll cs (s.paint c m) = m
    rw [s.paint_of_not_paints hc, ih _ hcs]

end ContextState

namespace Canvas

variable [Scalar α] [Root α] {s s' : Canvas α}

open Play

/-- What loading draws changes the current context, and nothing else. -/
theorem run_loadDraws (hs : s.Reachable) {b : Binding} {state : ContextState α}
    (hcur : s.currentState? = some (b, state)) (decoder : ImageDecoder) (assets : AssetStore)
    (name : String) :
    s.run (drawActions (loadDraws (state.lastTexture + 1) decoder assets name)) =
      { s with
        contexts := s.contexts.modify b.context
          (·.withTexture (readImage decoder assets name).toOption) } := by
  obtain ⟨hb, hf⟩ := currentState?_eq_some.mp hcur
  have hcontexts := Table.modify_congr hs.nodup_contexts hf
    (f := (·.replay (loadDraws (state.lastTexture + 1) decoder assets name)))
    (g := (·.withTexture (readImage decoder assets name).toOption))
    (ContextState.replay_loadDraws (hs.sound.named _ state hf) decoder assets name)
  have hpaint : ∀ m,
      state.paintAll (loadDraws (state.lastTexture + 1) decoder assets name) m = m :=
    state.paintAll_of_not_paints fun c => paints_of_mem_loadDraws
  have hsurfaces : (s.surfaces.modify b.surface fun t => { t with back := t.back }) = s.surfaces :=
    s.surfaces.modify_id b.surface
  rw [run_draws hb hf, hcontexts]
  simp only [hpaint]
  rw [hsurfaces]

/-- From `S` to `S'` a sprite was loaded: into the context of `b`, which was in the given state. -/
structure SpriteLoaded (S S' : Session α (Canvas α)) (b : Binding) (state : ContextState α)
    (image : Option Image) : Prop where
  lease : S'.lease = S.lease
  reachable : S'.display.Reachable
  /-- nothing but the current context has changed -/
  display : S'.display = { S.display with
    contexts := S.display.contexts.modify b.context (·.withTexture image) }
  current : S'.display.currentState? = some (b, state.withTexture image)
  /-- the name is new, -/
  new : state.lastTexture + 1 ∉ state.textures.keys
  /-- its texture is as it should be, and all other textures are as they were -/
  texture : (state.withTexture image).textures.find? (state.lastTexture + 1)
    = some ⟨.linear, .linear, image⟩
  others : ∀ name, name ≠ state.lastTexture + 1 →
    (state.withTexture image).textures.find? name = state.textures.find? name

theorem SpriteLoaded.of_display {S S' : Session α (Canvas α)} (hs : S.display.Reachable)
    {b : Binding} {state : ContextState α} (hcur : S.display.currentState? = some (b, state))
    {image : Option Image} (hl : S'.lease = S.lease) (hr : S'.display.Reachable)
    (hd : S'.display = { S.display with
      contexts := S.display.contexts.modify b.context (·.withTexture image) }) :
    SpriteLoaded S S' b state image := by
  obtain ⟨hb, hf⟩ := currentState?_eq_some.mp hcur
  have hnamed : state.Named := hs.sound.named _ state hf
  refine ⟨hl, hr, hd, ?_, hnamed.notMem, Table.find?_insert hnamed.notMem _, fun name hname =>
    Table.find?_insert_ne hname _ _⟩
  rw [hd, currentState?_eq_some]
  exact ⟨hb, Table.find?_modify_self hf (·.withTexture image)⟩

/-- **Loading a sprite** answers the name of a new texture, which it leaves bound. -/
theorem outcome_loadSprite (S : Session α (Canvas α)) (hs : S.display.Reachable) {b : Binding}
    {state : ContextState α} (hcur : S.display.currentState? = some (b, state))
    (decoder : ImageDecoder) (assets : AssetStore) (name : String) :
    ∃ S', (loadSprite decoder assets name).outcome S = (.ok (state.lastTexture + 1), S') ∧
      SpriteLoaded S S' b state ((assets name).toOption.bind decoder.decode?) := by
  rw [← toOption_readImage]
  obtain ⟨hb, hf⟩ := currentState?_eq_some.mp hcur
  obtain ⟨es, hp, hr⟩ := returns_loadSprite (α := α) decoder assets name S
  have hcrash : ¬ Crashed es := hp.display.not_crashed reply_isSome
  have hreplay := hp.display.replays hcrash
  rcases hout : (loadSprite decoder assets name).outcome S with ⟨_ | texture, S'⟩
  · rw [hout] at hr
    exact absurd hr hcrash
  · rw [hout] at hr hreplay
    obtain ⟨hlease, rest, hes, hrest⟩ := hr
    have hname : (step (.draw .generateTexture) S.display).1.reply
        = some (state.lastTexture + 1) := by
      rw [step_draw hb hf]
      rfl
    have hfirst := hreplay
    rw [hes] at hfirst
    obtain rfl : texture = state.lastTexture + 1 :=
      Option.some.inj (hfirst.1.symm.trans hname)
    have hcalls : callActions (exchanges es)
        = drawActions (loadDraws (state.lastTexture + 1) decoder assets name) :=
      callActions_of_map (by rw [hes, List.map_append, hrest, loadDraws, List.map_append]; rfl)
    have hrun := run_of_replays hreplay
    rw [hcalls] at hrun
    have hreach : S'.display.Reachable := hrun ▸ hs.run _
    rw [run_loadDraws hs hcur] at hrun
    exact ⟨S', rfl, .of_display hs hcur hlease hreach hrun.symm⟩

/-! ## textures without an image -/

/-- If there is the texture of the name in the context, it has no image. -/
def Imageless (s : Canvas α) (n : ContextId) (name : TextureId) : Prop :=
  ∀ state, s.contexts.find? n = some state → ∀ texture,
    state.textures.find? name = some texture → texture.image = none

variable {n : ContextId} {name : TextureId}

/-- A texture has no image until one is uploaded. -/
theorem Imageless.change (h : s.Imageless n name) (hs : s.Sound) {c : Call α} {r : c.Reply}
    (hc : Change s c r s')
    (hup : ∀ k, s.stroke? ⟨c, r⟩ = some k → k.binding.context = n → k.upload? name = none) :
    s'.Imageless n name := by
  intro state hf texture hfound
  cases hc.fate hs.issued hf with
  | made => cases hfound
  | kept hold => exact h _ hold texture hfound
  | sized hold => exact h _ hold texture hfound
  | @drawn b old c hold hx =>
    obtain ⟨hk, hn⟩ := mem_inContext_stroke?.mp (hx ▸ List.mem_singleton_self _)
    have hnone : old.upload? name c = none := hup _ hk hn
    rcases ContextState.image_apply (hs.named _ old hold) c hfound with
      ⟨-, himage, -⟩ | ⟨before, hbefore, himage⟩
    · exact himage
    · rw [himage, hnone, h old hold before hbefore]
      rfl

theorem Imageless.run (h : s.Imageless n name) (hs : s.Reachable) (as : List (Action α))
    (hup : ∀ k ∈ inContext n (strokes s as), k.upload? name = none) :
    (s.run as).Imageless n name := by
  refine run_induction (P := fun as s' =>
    (∀ k ∈ inContext n (strokes s as), k.upload? name = none) → s'.Imageless n name)
    (fun _ => h) (fun as w v ih hup => ?_) (fun as c r s' hr hc ih hup => ?_) as hup
  · rw [strokes, seen_window] at hup
    exact ih hup
  · rw [strokes, seen_call _ hr, inContext_append] at hup
    obtain ⟨hbefore, hlast⟩ := List.forall_mem_append.mp hup
    exact (ih hbefore).change (hs.run as).sound hc fun k hk hn =>
      hlast k (mem_inContext_stroke?.mpr ⟨hk, hn⟩)

omit [Scalar α] [Root α] in
theorem call_of_stroke? {x : Exchange α} {k : Stroke α} (h : s.stroke? x = some k) :
    x.call = .draw k.call := by
  obtain ⟨c, r⟩ := x
  cases c with
  | draw c =>
    obtain ⟨found, -, rfl⟩ := Option.map_eq_some_iff.mp h
    rfl
  | _ => cases h

/-- So every stroke finds the texture without an image. -/
theorem Imageless.stroke (h : s.Imageless n name) (hs : s.Reachable) {as : List (Action α)}
    (hup : ∀ k ∈ inContext n (strokes s as), k.upload? name = none) {k : Stroke α}
    (hk : k ∈ strokes s as) (hn : k.binding.context = n) :
    ∀ texture, k.state.textures.find? name = some texture → texture.image = none := by
  obtain ⟨pre, c, r, post, rfl, -, hstroke⟩ := mem_seen.mp hk
  have hpre : (s.run pre).Imageless n name := by
    refine h.run hs pre fun k hk => hup k ?_
    rw [strokes, seen_append, inContext_append]
    exact List.mem_append_left _ hk
  subst hn
  exact hpre k.state (currentState?_of_stroke? hstroke).2

/-- So has the texture of a sprite that was not read. -/
theorem SpriteLoaded.imageless {S S' : Session α (Canvas α)} {b : Binding}
    {state : ContextState α} (h : SpriteLoaded S S' b state none) :
    S'.display.Imageless b.context (state.lastTexture + 1) := by
  intro next hf texture hfound
  obtain rfl := Option.some.inj (hf.symm.trans (currentState?_eq_some.mp h.current).2)
  obtain rfl := Option.some.inj (hfound.symm.trans h.texture)
  rfl

omit [Scalar α] [Root α] in
/-- Turning texturing off, as a draw call. -/
theorem revise_texturing (s : Canvas α) (b : Binding) :
    s.contexts.modify b.context (·.apply (.setTexturing false))
      = s.contexts.revise fun n => (·.plainIf (n = b.context)) := by
  refine List.map_congr_left fun e _ => ?_
  show (if e.1 = b.context then (e.1, e.2.apply (.setTexturing false)) else e)
    = (e.1, e.2.plainIf (decide (e.1 = b.context)))
  by_cases he : e.1 = b.context
  · rw [if_pos he, decide_eq_true he]
    rfl
  · rw [if_neg he, decide_eq_false he]
    rfl

theorem step_texturing {b : Binding} {state : ContextState α}
    (hcur : s.currentState? = some (b, state)) :
    (step (.draw (.setTexturing false)) s).2 = s.plainIn fun n => n = b.context := by
  obtain ⟨hb, hf⟩ := currentState?_eq_some.mp hcur
  have hsurfaces : (s.surfaces.modify b.surface fun t =>
      { t with back := state.paint (.setTexturing false) t.back }) = s.surfaces :=
    s.surfaces.modify_id b.surface
  rw [step_draw hb hf]
  show s.drawOn b state (.setTexturing false) = _
  rw [drawOn, revise_texturing, hsurfaces, plainIn]

/-- **Draw calls with a texture without an image**, and the same ones without texturing. -/
theorem Imageless.sameSight (hs : s.Reachable) {b : Binding} {state : ContextState α}
    (hcur : s.currentState? = some (b, state)) (h : s.Imageless b.context name)
    {cs : List (DrawCall α)}
    (hcs : ∀ k ∈ strokes s (drawActions cs), k.upload? name = none ∧
      ∀ indices, k.call = .drawElements indices → k.state.texturing = true →
        k.state.boundTexture = some name) :
    SameSight s (drawActions cs) (step (.draw (.setTexturing false)) s).2
      (drawActions (cs.map DrawCall.plain)) := by
  obtain ⟨hb, hf⟩ := currentState?_eq_some.mp hcur
  have hbare : ∀ k ∈ strokes s (drawActions cs), k.Bare := fun k hk => by
    have hcontext : k.binding.context = b.context :=
      congrArg Binding.context ((strokes_draws hb hf cs).2 k hk)
    have hup : ∀ k ∈ inContext b.context (strokes s (drawActions cs)), k.upload? name = none :=
      fun k hk => (hcs k (List.mem_filter.mp hk).1).1
    intro indices hcall
    refine ContextState.sampled?_eq_none fun ht bound hbound => ?_
    obtain rfl := Option.some.inj (((hcs k hk).2 indices hcall ht).symm.trans hbound)
    exact h.stroke hs hup hk hcontext
  have hactions : drawActions (cs.map DrawCall.plain) = (drawActions cs).map Action.plain := by
    rw [drawActions, drawActions, List.map_map, List.map_map]
    rfl
  rw [step_texturing hcur, hactions]
  exact sameSight_plain hbare _

end Canvas

/-! ## a renderer without a sprite -/

/-- The call binds no context but `n`, and uploads nothing. -/
def Call.staysIn (n : ContextId) : Call α → Prop
  | .makeCurrent _ (some b) => b.context = n
  | .draw (.uploadTexture _ _ _) => False
  | _ => True

def StaysIn (n : ContextId) (xs : List (Exchange α)) : Prop := ∀ x ∈ xs, x.call.staysIn n

section
variable {n : ContextId} {b : Binding} {d : DisplayId} {xs : List (Exchange α)}

theorem StaysIn.append {ys : List (Exchange α)} (hx : StaysIn n xs) (hy : StaysIn n ys) :
    StaysIn n (xs ++ ys) := List.forall_mem_append.mpr ⟨hx, hy⟩

theorem staysIn_of_map {cs : List (DrawCall α)} (h : xs.map Exchange.call = cs.map Call.draw)
    (hcs : ∀ c ∈ cs, (Call.draw c).staysIn n) : StaysIn n xs := by
  intro x hx
  have hm : x.call ∈ cs.map Call.draw := h ▸ List.mem_map_of_mem hx
  obtain ⟨c, hc, hcall⟩ := List.mem_map.mp hm
  exact hcall ▸ hcs c hc

theorem Asked.staysIn {r : Bool} (h : Asked b xs r) : StaysIn n xs := by
  cases h <;> simp [StaysIn, Call.staysIn]

theorem Ensured.staysIn {r : Except DisplayError Unit} (h : Ensured d b xs r) :
    StaysIn b.context xs := by
  cases h with
  | current ha => exact ha.staysIn
  | rebound ha => exact ha.staysIn.append (by simp [StaysIn, Call.staysIn])
  | lost ha code => exact ha.staysIn.append (by simp [StaysIn, Call.staysIn])

theorem Presented.staysIn {t : SurfaceId} {r : Except DisplayError Unit}
    (h : Presented d t xs r) : StaysIn n xs := by
  cases h <;> simp [StaysIn, Call.staysIn]

variable [Scalar α]

theorem staysIn_swarm (s : Swarm α) : ∀ c ∈ s.draws, (Call.draw c).staysIn n := by
  intro c hc
  obtain ⟨f, -, hf⟩ := List.mem_flatMap.mp hc
  simp only [Firefly.draws, List.mem_cons, List.not_mem_nil, or_false] at hf
  rcases hf with rfl | rfl | rfl | rfl | rfl | rfl | rfl <;> exact trivial

/-- Without a sprite nothing is uploaded. -/
theorem Prepared.staysIn {r : Renderer α} {texture : TextureId} (h : Prepared r texture xs)
    {e : AssetError} (he : readImage r.decoder r.assets r.settings.sprite = .error e) : StaysIn n xs := by
  refine staysIn_of_map h.calls ?_
  simp [Renderer.furniture, spriteDraws, he, Renderer.screenSetup, Call.staysIn]

variable [Trig α]

theorem Drawn.staysIn {elapsed : Nat} {c : Control} {scene scene' : Scene α}
    {ready setup lights : List (Event α)}
    (h : Drawn d b elapsed c scene scene' ready setup lights) :
    StaysIn b.context (exchanges (ready ++ setup ++ lights)) := by
  rw [exchanges_append, exchanges_append]
  refine (h.ensured.staysIn.append ?_).append (staysIn_of_map h.drawn (staysIn_swarm _))
  exact staysIn_of_map h.cleared (by simp [frameSetup, Call.staysIn])

/-- A renderer stays in its context. -/
theorem Loop.staysIn {ticks : List Tick} {c : Control} {scene : Scene α} {seen : List Bool}
    {es : List (Event α)} {exit : Exit} (h : Loop d b ticks c scene seen es exit) :
    StaysIn b.context (exchanges es) := by
  induction h with
  | finished | stopped =>
    rw [exchanges_requestEvents]
    exact nofun
  | lost _ _ he =>
    rw [exchanges_requested]
    exact he.staysIn
  | unpresented _ hd hp =>
    rw [exchanges_frameEvents]
    exact hd.staysIn.append hp.staysIn
  | frame _ hd hp _ ih =>
    rw [exchanges_append, exchanges_frameEvents]
    exact (hd.staysIn.append hp.staysIn).append ih

end

namespace Canvas

variable [Scalar α] [Root α] {s s' : Canvas α} {n : ContextId} {xs : List (Exchange α)}

theorem Change.current_context {c : Call α} {r : c.Reply} (h : Change s c r s')
    (hc : c.staysIn n) (hs : ∀ b, s.current = some b → b.context = n) :
    ∀ b, s'.current = some b → b.context = n := by
  cases h with
  | unbound => exact nofun
  | bound =>
    intro b hb
    exact Option.some.inj hb ▸ hc
  | endedContext | endedSurface => exact fun b hb => hs b (Option.filter_eq_some_iff.mp hb).1
  | _ => exact hs

/-- All strokes are in the context that is bound, and none of them uploads anything. -/
theorem strokes_of_staysIn (h : StaysIn n xs) (hs : ∀ b, s.current = some b → b.context = n) :
    ∀ k ∈ strokes s (callActions xs), k.binding.context = n ∧ ∀ name, k.upload? name = none := by
  induction xs generalizing s with
  | nil => exact fun k hk => absurd hk List.not_mem_nil
  | cons x xs ih =>
    obtain ⟨hx, hxs⟩ := List.forall_mem_cons.mp h
    obtain ⟨r, hr, hc⟩ := change_step x.call s
    have hstrokes : strokes s (callActions (x :: xs))
        = (s.stroke? ⟨x.call, r⟩).toList ++ strokes (step x.call s).2 (callActions xs) :=
      seen_cons_call stroke? hr (callActions xs)
    rw [hstrokes]
    refine List.forall_mem_append.mpr ⟨fun k hk => ?_, ih hxs (hc.current_context hx hs)⟩
    have hstroke := Option.mem_toList.mp hk
    refine ⟨hs k.binding (currentState?_of_stroke? hstroke).1, fun name => ?_⟩
    have hstays : (Call.draw k.call).staysIn n := call_of_stroke? hstroke ▸ hx
    show k.state.upload? name k.call = none
    cases hdraw : k.call with
    | uploadTexture width height rgba =>
      rw [hdraw] at hstays
      exact hstays.elim
    | _ => rfl

theorem strokes_of_replays (h : Replays s xs s') (ys : List (Exchange α)) :
    strokes s (callActions (xs ++ ys))
      = strokes s (callActions xs) ++ strokes s' (callActions ys) := by
  rw [callActions_append, strokes, seen_append, run_of_replays h]
  rfl

theorem strokes_of_noDraws (h : NoDraws xs) (s : Canvas α) : strokes s (callActions xs) = [] := by
  refine List.eq_nil_iff_forall_not_mem.mpr fun k hk => ?_
  obtain ⟨pre, c, r, post, has, -, hstroke⟩ := mem_seen.mp hk
  have hmem : Action.call c ∈ callActions xs := has ▸ List.mem_append_right pre List.mem_cons_self
  obtain ⟨x, hx, hcall⟩ := List.mem_map.mp hmem
  obtain rfl : x.call = c := Action.call.inj hcall
  have hdraw := h x hx
  rw [call_of_stroke? hstroke] at hdraw
  cases hdraw

/-- An acquisition that goes through is one over a window. -/
theorem window_of_steps {h : Handles} {w : WindowId}
    (hr : Replays s (h.steps w : List (Exchange α)) s') : ∃ v, s.windows[w]? = some v := by
  have hfour : Replays s ((h.steps w).take 4 ++ (h.steps w : List (Exchange α)).drop 4) s' := hr
  obtain ⟨d, version, config, context, surface⟩ := h
  obtain ⟨h₁, -, h₃, -, hlast⟩ := replays_take_four hfour
  cases h₁; cases h₃
  obtain ⟨r, hreply, hc⟩ := change_step (.createSurface displayId configId w) s.withContext
  obtain rfl : some surface = r := Option.some.inj (hlast.1.symm.trans hreply)
  generalize (step (.createSurface displayId configId w) s.withContext).2 = next at hc
  cases hc with
  | refused _ hfailed => cases hfailed
  | madeSurface _ hw => exact ⟨_, hw⟩

variable [Trig α]

/-- A renderer without a sprite samples no image. -/
theorem bare_life (r : Renderer α) (before : Requests) (ticks : List Tick) (hs : s.Reachable)
    {e : AssetError} (he : readImage r.decoder r.assets r.settings.sprite = .error e) :
    ∀ k ∈ strokes s (callActions (exchanges (r.life before ticks s).2.trace.toList)), k.Bare := by
  have ha := life_answers r before ticks s
  have hn := ha.not_crashed reply_isSome
  have hr := ha.replays hn
  generalize (r.life before ticks s).2.display = s' at hr
  rcases life_cases r before ticks s with h | ⟨exit, es, -, ht, work, down, l, rfl, hwork, hdown⟩
  · exact absurd h hn
  rw [ht, exchanges_requested, exchanges_append] at hr ⊢
  obtain ⟨s₁, h₁, -⟩ := replays_append.mp hr
  rw [strokes_of_replays h₁, strokes_of_noDraws (noDraws_of_release hdown), List.append_nil]
  cases hwork with
  | refused hacq =>
    rw [strokes_of_noDraws hacq.noDraws]
    exact fun k hk => absurd hk List.not_mem_nil
  | @ran acq prep loop _ h texture seen hacq hp hl =>
    have hsteps := strokes_of_noDraws (h.noDraws_steps r.window) s
    rw [exchanges_append, exchanges_append, hacq, List.append_assoc] at h₁ ⊢
    obtain ⟨s₂, h₂, -⟩ := replays_append.mp h₁
    obtain ⟨v, hw⟩ := window_of_steps h₂
    obtain ⟨-, rfl, hg⟩ := guest_of_steps hs.issued hw h₂
    rw [strokes_of_replays h₂, hsteps, List.nil_append]
    -- the context of the renderer is new, so at first there are no textures in it
    have hblank : ∀ name, s₂.Imageless s.nextHandles.context name := fun name => by
      have hstart : s.Imageless s.nextHandles.context name := fun state hf =>
        absurd (Table.mem_keys_of_find? hf) hs.issued.notMem_context
      rw [← run_of_replays h₂]
      refine hstart.run hs _ ?_
      rw [hsteps]
      exact fun k hk => absurd hk List.not_mem_nil
    have hstays := strokes_of_staysIn (s := s₂) ((hp.staysIn he).append hl.staysIn) fun b hb => by
      rw [hg.current] at hb
      exact Option.some.inj hb ▸ rfl
    have hreach : s₂.Reachable := run_of_replays h₂ ▸ hs.run _
    intro k hk indices hcall
    refine ContextState.sampled?_eq_none fun _ name _ => ?_
    refine (hblank name).stroke hreach (fun k hk => ?_) hk (hstays k hk).1
    exact (hstays k (List.mem_filter.mp hk).1).2 name

/-! ## the laws -/

/-- Of sprites that are loaded on a canvas, and above all of those that cannot be read. -/
structure SoftLoadLaws (α : Type) [Scalar α] [Root α] [Trig α] : Prop where
  /-- a load always goes through; the image of the texture is what the decoder makes of the bytes
  in the store, if these can be read and decoded, -/
  load : ∀ (S : Session α (Canvas α)) (b : Binding) (state : ContextState α)
    (decoder : ImageDecoder) (assets : AssetStore) (name : String),
    S.display.Reachable → S.display.currentState? = some (b, state) →
    ∃ S', (loadSprite decoder assets name).outcome S = (.ok (state.lastTexture + 1), S') ∧
      SpriteLoaded S S' b state ((assets name).toOption.bind decoder.decode?)
  /-- if it cannot, and if nothing has been uploaded since, then all that is drawn with the texture
  is drawn as if texturing were off -/
  draws : ∀ (S S' : Session α (Canvas α)) (b : Binding) (state : ContextState α)
    (as : List (Action α)) (b' : Binding) (state' : ContextState α) (cs : List (DrawCall α)),
    SpriteLoaded S S' b state none →
    (∀ k ∈ inContext b.context (strokes S'.display as),
      k.upload? (state.lastTexture + 1) = none) →
    (S'.display.run as).currentState? = some (b', state') → b'.context = b.context →
    (∀ k ∈ strokes (S'.display.run as) (drawActions cs),
      k.upload? (state.lastTexture + 1) = none ∧
      ∀ indices, k.call = .drawElements indices → k.state.texturing = true →
        k.state.boundTexture = some (state.lastTexture + 1)) →
    SameSight (S'.display.run as) (drawActions cs)
      (step (.draw (.setTexturing false)) (S'.display.run as)).2
      (drawActions (cs.map DrawCall.plain))
  /-- a whole run, too, is the run of untextured fireflies, frame by frame -/
  life : ∀ (r : Renderer α) (before : Requests) (ticks : List Tick) (s : Canvas α),
    s.Reachable → (r.assets r.settings.sprite).toOption.bind r.decoder.decode? = none →
    (r.life before ticks s).2.display
        = s.run (callActions (exchanges (r.life before ticks s).2.trace.toList)) ∧
      SameSight s (callActions (exchanges (r.life before ticks s).2.trace.toList)) s
        ((callActions (exchanges (r.life before ticks s).2.trace.toList)).map Action.plain)

/-- **A sprite that cannot be read does no harm.**  Its texture is there and bound like any other,
and the fireflies that are drawn with it are plain squares. -/
theorem softLoadLaws : SoftLoadLaws α where
  load S _ _ decoder assets name hs hcur := outcome_loadSprite S hs hcur decoder assets name
  draws S S' b state as b' state' cs h hup hcur hb hcs := by
    have hblank := h.imageless.run h.reachable as hup
    rw [← hb] at hblank
    exact hblank.sameSight (h.reachable.run as) hcur hcs
  life r before ticks s hs himage := by
    obtain ⟨e, he⟩ : ∃ e, readImage r.decoder r.assets r.settings.sprite = .error e := by
      rw [← toOption_readImage] at himage
      cases hread : readImage r.decoder r.assets r.settings.sprite with
      | error e => exact ⟨e, rfl⟩
      | ok m => rw [hread] at himage; cases himage
    have ha := life_answers r before ticks s
    have hplain := sameSight_plain (bare_life r before ticks hs he) fun _ => false
    rw [plainIn_nowhere] at hplain
    exact ⟨(run_of_replays (ha.replays (ha.not_crashed reply_isSome))).symm, hplain⟩

end Canvas
end FireflyOverlay
