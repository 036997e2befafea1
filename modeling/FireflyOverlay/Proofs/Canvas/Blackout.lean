import FireflyOverlay.Proofs.Canvas.Guest
import FireflyOverlay.Proofs.Canvas.Rebinding
import FireflyOverlay.Proofs.Canvas.Windows
import FireflyOverlay.Proofs.Drawing.Dark

/-!
# A fade-out ends in black

On a canvas, in exact arithmetic, and whatever sprite, viewport and size there are: once 334 ms of
fading have gone by, in frames of any lengths, a frame is all black, and so is every later one.

* `Canvas.callActions`   calls that were answered, as a run of a canvas;
* `Canvas.Ready`         a renderer can bind what it holds, and clears with black;
* `Blackens`             the pictures that frames show, and from when on they are black;
* `Ready.frame`, `Ready.loop`   a frame, and the frame loop;
* `Guest.ready`          a renderer has prepared itself for it;
* `blackoutLaws`         what frames, the loop and a whole run leave and show.
-/

namespace FireflyOverlay

variable {α : Type}

/-! ## pictures of frames -/

/-- The pictures `ks` are shown by the frames `fs`, one by each, on the surface `n`; before them there
was some fading already.  From 334 ms of fading on they are black. -/
structure Blackens (n : SurfaceId) (width height time : Nat) (fs : List Frame)
    (ks : List Canvas.Showing) : Prop where
  length_eq : ks.length = fs.length
  surface : ∀ k ∈ ks, k.surface = n
  black : ∀ k < fs.length, 334 ≤ time + fadingTime (fs.take (k + 1)) →
    ks[k]? = some ⟨n, .black width height⟩

theorem Blackens.nil (n : SurfaceId) (width height time : Nat) :
    Blackens n width height time [] [] := ⟨rfl, nofun, nofun⟩

theorem Blackens.cons {n : SurfaceId} {width height time : Nat} {f : Frame} {fs : List Frame}
    {image : Image} {ks : List Canvas.Showing}
    (hf : 334 ≤ time + (if f.fading then f.elapsed else 0) → image = .black width height)
    (h : Blackens n width height (time + if f.fading then f.elapsed else 0) fs ks) :
    Blackens n width height time (f :: fs) (⟨n, image⟩ :: ks) where
  length_eq := congrArg (· + 1) h.length_eq
  surface := List.forall_mem_cons.mpr ⟨rfl, h.surface⟩
  black k hk ht := by
    rw [List.take_succ_cons, fadingTime_cons, ← Nat.add_assoc] at ht
    cases k with
    | zero =>
      have himage : image = .black width height := hf (by simpa [fadingTime] using ht)
      rw [himage]
      rfl
    | succ k => exact h.black k (Nat.lt_of_succ_lt_succ hk) ht

theorem drawCalls_of_noDraws {es : List (Event α)} (h : NoDraws (exchanges es)) :
    drawCalls es = [] := by
  rw [drawCalls, List.filterMap_eq_nil_iff]
  intro c hc
  obtain ⟨x, hx, rfl⟩ := List.mem_map.mp hc
  have hn := h x hx
  cases hcall : x.call <;> rw [hcall] at hn <;> first | rfl | cases hn

/-- A frame of the loop, as it is told by its draw calls. -/
theorem Drawn.shot [Scalar α] [Trig α] {d : DisplayId} {b : Binding} {elapsed : Nat} {c : Control}
    {r : Requests} {scene scene' : Scene α} {ready setup lights shown : List (Event α)}
    (hd : Drawn d b elapsed (c.request r) scene scene' ready setup lights)
    {res : Except DisplayError Unit} (hp : Presented d b.surface (exchanges shown) res) :
    ∃ f, f.elapsed = elapsed ∧ scene' = scene.after f.elapsed f.fading ∧
      Shot f c scene (frameEvents r ready setup lights shown) := by
  have hready : drawCalls ready = [] := drawCalls_of_noDraws hd.ensured.noDraws
  have hshown : drawCalls shown = [] := drawCalls_of_noDraws hp.noDraws
  have hc : (c.request r).after (ready ++ setup)
      = (c.after (requestEvents r ++ (ready ++ setup) : List (Event α))) := by
    rw [Control.after_append c, Control.after_requestEvents]
  refine ⟨⟨elapsed, ((c.request r).after (ready ++ setup)).requests.fadeOut⟩, rfl, hd.updated,
    requestEvents r ++ (ready ++ setup), lights ++ shown, ?_, ?_, by rw [hc], ?_⟩
  · simp only [frameEvents, List.append_assoc]
  · rw [drawCalls_append, drawCalls_append, drawCalls_requestEvents, hready, hd.cleared.drawCalls]
    rfl
  · rw [drawCalls_append, hd.drawn.drawCalls, hshown, List.append_nil, hd.updated]

/-! ## preparing -/

/-- What is drawn before the first frame, once the color is set that frames clear with. -/
def Renderer.furniture [Scalar α] (r : Renderer α) (texture : TextureId) : List (DrawCall α) :=
  [.generateTexture, .bindTexture texture] ++
    (spriteDraws r.decoder r.assets r.settings.sprite ++ Renderer.screenSetup r.settings.surface)

section
variable [Scalar α] {r : Renderer α} {texture : TextureId}

theorem Prepared.calls {xs : List (Exchange α)} (h : Prepared r texture xs) :
    xs.map Exchange.call
      = (.setClearColor .opaqueBlack :: r.furniture texture).map Call.draw := by
  obtain ⟨rest, rfl, hrest⟩ := h
  rw [List.map_append, hrest, Renderer.furniture]
  simp

/-- Nothing of it clears, and the color to clear with stays. -/
theorem Renderer.keeps_of_mem_furniture (r : Renderer α) {c : DrawCall α}
    (h : c ∈ r.furniture texture) : c ≠ .clear ∧ ∀ k, c ≠ .setClearColor k := by
  unfold furniture spriteDraws at h
  split at h <;> simp only [List.mem_append, List.mem_cons, List.not_mem_nil, or_false, false_or,
    Renderer.screenSetup, uploadSprite] at h
  · rcases h with (rfl | rfl) | rfl | rfl <;>
      refine ⟨fun h => ?_, fun k h => ?_⟩ <;> cases h
  · rcases h with (rfl | rfl) | (rfl | rfl) | rfl | rfl <;>
      refine ⟨fun h => ?_, fun k h => ?_⟩ <;> cases h

theorem Prepared.drawCalls {es : List (Event α)} (h : Prepared r texture (exchanges es)) :
    ∀ c ∈ drawCalls es, c ≠ .clear := by
  have hdraws : Draws (.setClearColor .opaqueBlack :: r.furniture texture) es := h.calls
  rw [hdraws.drawCalls]
  exact List.forall_mem_cons.mpr ⟨nofun, fun c hc => (r.keeps_of_mem_furniture hc).1⟩

end

namespace Canvas

/-! ## calls that were answered -/

section
variable [Scalar α] [Root α] {s s' : Canvas α}

def callActions (xs : List (Exchange α)) : List (Action α) := xs.map fun x => .call x.call

omit [Scalar α] [Root α] in
theorem callActions_append (xs ys : List (Exchange α)) :
    callActions (xs ++ ys) = callActions xs ++ callActions ys := List.map_append

omit [Scalar α] [Root α] in
theorem callActions_of_map {xs : List (Exchange α)} {cs : List (DrawCall α)}
    (h : xs.map Exchange.call = cs.map Call.draw) : callActions xs = drawActions cs := by
  show xs.map (Action.call ∘ Exchange.call) = _
  rw [← List.map_map, h, List.map_map]
  rfl

theorem run_of_replays {xs : List (Exchange α)} (h : Replays s xs s') :
    s.run (callActions xs) = s' := by
  induction xs generalizing s with
  | nil => exact Eq.symm h
  | cons x xs ih => exact ih h.2

theorem showings_append (s : Canvas α) (as bs : List (Action α)) :
    showings s (as ++ bs) = showings s as ++ showings (s.run as) bs := seen_append showing? s as bs

/-- Only swaps show anything. -/
theorem showings_of_no_swap {xs : List (Exchange α)}
    (h : xs.filter (fun x => x.call.isSwap) = []) (s : Canvas α) :
    showings s (callActions xs) = [] := by
  induction xs generalizing s with
  | nil => rfl
  | cons x xs ih =>
    obtain ⟨hx, hxs⟩ := List.forall_mem_cons.mp (List.filter_eq_nil_iff.mp h)
    obtain ⟨r, hr, -⟩ := change_step x.call s
    have hnone : s.showing? ⟨x.call, r⟩ = none := by
      obtain ⟨call, reply⟩ := x
      cases call with
      | swapBuffers d n => exact absurd rfl hx
      | _ => rfl
    show showings s (.call x.call :: callActions xs) = []
    rw [showings, seen_cons_call showing? hr, hnone]
    exact ih (List.filter_eq_nil_iff.mpr hxs) _

end

/-! ## a seat to draw on -/

structure Ready (b : Binding) (width height : Nat) (s : Canvas Rat) : Prop where
  opened : s.opened = true
  context : ∃ state, s.contexts.find? b.context = some state ∧ state.clearColor = .opaqueBlack
  surface : ∃ t, s.surfaces.find? b.surface = some t ∧ t.back.SameSize (.black width height)

variable [Root Rat] {s s' : Canvas Rat} {b : Binding} {width height : Nat}

/-- The seat can be bound, if it is not current already. -/
theorem Ready.ensured (h : Ready b width height s) {xs : List (Exchange Rat)}
    {r : Except DisplayError Unit} (he : Ensured displayId b xs r) (hr : Replays s xs s') :
    r = .ok () ∧ s'.current = some b ∧ Ready b width height s' := by
  obtain ⟨state, hc, hclear⟩ := h.context
  obtain ⟨t, ht, hsize⟩ := h.surface
  have hbind := step_bind h.opened hc ht
  cases he with
  | current ha =>
    obtain ⟨rfl, hcur⟩ := replays_asked ha hr
    exact ⟨rfl, hcur.mp rfl, h⟩
  | rebound ha =>
    obtain ⟨s₁, h₁, h₂⟩ := replays_append.mp hr
    obtain ⟨rfl, -⟩ := replays_asked ha h₁
    obtain ⟨-, rfl⟩ := h₂.answer hbind
    have hfound := Table.find?_modify_self hc (·.defaultViewport t.back.width t.back.height)
    exact ⟨rfl, rfl, h.opened, ⟨_, hfound, hclear⟩, t, ht, hsize⟩
  | lost ha code =>
    obtain ⟨s₁, h₁, h₂⟩ := replays_append.mp hr
    obtain ⟨rfl, -⟩ := replays_asked ha h₁
    cases (h₂.answer hbind).1

/-- A frame without opacity leaves the back black. -/
theorem Ready.painted (h : Ready b width height s) (hb : s.current = some b) (texture : TextureId)
    (swarm : Swarm Rat) (hr : s' = s.run (drawActions (frameSetup texture ++ swarm.draws))) :
    Ready b width height s' ∧ ((∀ f ∈ swarm.fireflies, f.opacity = 0) →
      ∃ t, s'.surfaces.find? b.surface = some t ∧ t.back = .black width height) := by
  obtain ⟨state, hc, hclear⟩ := h.context
  obtain ⟨t, ht, hsize⟩ := h.surface
  rw [run_draws hb hc] at hr
  subst hr
  have hctx := Table.find?_modify_self hc (·.replay (frameSetup texture ++ swarm.draws))
  have hkept : (state.replay (frameSetup texture ++ swarm.draws)).clearColor = .opaqueBlack :=
    (state.clearColor_replay_frame texture swarm).trans hclear
  have hsrf := Table.find?_modify_self ht fun u =>
    { u with back := state.paintAll (frameSetup texture ++ swarm.draws) u.back }
  refine ⟨⟨h.opened, ⟨_, hctx, hkept⟩, _, hsrf, ?_⟩, fun hdark => ⟨_, hsrf, ?_⟩⟩
  · exact (state.sameSize_paintAll _ t.back).trans hsize
  · have hblack := ContextState.paintAll_dark hclear texture hdark t.back
    rw [hsize.1, hsize.2] at hblack
    exact hblack

/-- The swap is granted, and shows the back. -/
theorem Ready.presented (h : Ready b width height s) {xs : List (Exchange Rat)}
    {r : Except DisplayError Unit} (hp : Presented displayId b.surface xs r)
    (hr : Replays s xs s') :
    r = .ok () ∧ Ready b width height s' ∧ ∀ t, s.surfaces.find? b.surface = some t →
      showings s (callActions xs) = [⟨b.surface, t.back⟩] := by
  obtain ⟨t, ht, hsize⟩ := h.surface
  have hswap := step_swap h.opened ht
  cases hp with
  | refused code => cases (hr.answer hswap).1
  | shown =>
    obtain ⟨-, rfl⟩ := hr.answer hswap
    refine ⟨rfl, ⟨h.opened, h.context, t, ht, hsize⟩, fun u hu => ?_⟩
    have hreply : (step (.swapBuffers displayId b.surface) s).1.reply = some true := by
      rw [hswap]
      rfl
    have hseen : s.showing? ⟨.swapBuffers displayId b.surface, true⟩ =
        some ⟨b.surface, u.back⟩ := by
      show (s.surfaces.find? b.surface).map _ = _
      rw [hu]
      rfl
    show showings s [.call (.swapBuffers displayId b.surface)] = _
    rw [showings, seen_cons_call showing? hreply, hseen]
    rfl

variable [Trig Rat]

/-- One frame shows one picture, which is black where the fireflies have no opacity. -/
theorem Ready.frame (h : Ready b width height s) {elapsed : Nat} {c : Control} {q : Requests}
    {scene scene' : Scene Rat} {ready setup lights shown : List (Event Rat)}
    {r : Except DisplayError Unit}
    (hd : Drawn displayId b elapsed c scene scene' ready setup lights)
    (hp : Presented displayId b.surface (exchanges shown) r)
    (hr : Replays s (exchanges (frameEvents q ready setup lights shown)) s') :
    r = .ok () ∧ Ready b width height s' ∧ ∃ image,
      showings s (callActions (exchanges (frameEvents q ready setup lights shown)))
        = [⟨b.surface, image⟩] ∧
      ((∀ f ∈ scene'.swarm.fireflies, f.opacity = 0) → image = .black width height) := by
  rw [exchanges_frameEvents] at hr ⊢
  obtain ⟨s₂, hr, hswap⟩ := replays_append.mp hr
  have hquiet : showings s (callActions (exchanges (ready ++ setup ++ lights))) = [] :=
    showings_of_no_swap hd.upToSwap.swaps s
  have hrun := run_of_replays hr
  rw [exchanges_append, exchanges_append, List.append_assoc] at hr
  obtain ⟨s₁, hready, hdraws⟩ := replays_append.mp hr
  obtain ⟨-, hcur, h₁⟩ := h.ensured hd.ensured hready
  have hcalls : callActions (exchanges setup ++ exchanges lights)
      = drawActions (frameSetup scene.texture ++ scene'.swarm.draws) := by
    have hcleared : (exchanges setup).map Exchange.call = _ := hd.cleared
    have hdrawn : (exchanges lights).map Exchange.call = _ := hd.drawn
    refine callActions_of_map ?_
    rw [List.map_append, hcleared, hdrawn, ← List.map_append]
  have hdrawn := run_of_replays hdraws
  rw [hcalls] at hdrawn
  obtain ⟨h₂, hdark⟩ := h₁.painted hcur scene.texture scene'.swarm hdrawn.symm
  obtain ⟨hok, h₃, hshow⟩ := h₂.presented hp hswap
  obtain ⟨t, ht, -⟩ := h₂.surface
  refine ⟨hok, h₃, t.back, ?_, fun ho => ?_⟩
  · rw [callActions_append, showings_append, hquiet, hrun, hshow t ht]
    rfl
  · obtain ⟨u, hu, hblack⟩ := hdark ho
    rw [ht] at hu
    cases hu
    exact hblack

/-- **The loop on a canvas** draws its frames until it is stopped, and shows a picture of each. -/
theorem Ready.loop (h : Ready b width height s) {ticks : List Tick} {c : Control}
    {scene : Scene Rat} {seen : List Bool} {es : List (Event Rat)} {exit : Exit} {time : Nat}
    (hdim : scene.swarm.DimmedBy time) (hl : Loop displayId b ticks c scene seen es exit)
    (hr : Replays s (exchanges es) s') :
    exit = .stopped ∧ ∃ fs, Films scene c ticks es fs ∧ drawCalls es = scene.film fs ∧
      Blackens b.surface width height time fs (showings s (callActions (exchanges es))) := by
  induction hl generalizing s time with
  | finished | stopped =>
    refine ⟨rfl, [], (Films.still (drawCalls_requestEvents _)).1, drawCalls_requestEvents _, ?_⟩
    rw [exchanges_requestEvents]
    exact .nil ..
  | lost _ _ he =>
    rw [exchanges_requested] at hr
    cases (h.ensured he hr).1
  | unpresented _ hd hp => cases (h.frame hd hp hr).1
  | @frame t ticks c scene scene' ready setup lights shown seen es exit _ hd hp _ ih =>
    rw [exchanges_append] at hr
    obtain ⟨s₁, hframe, hrest⟩ := replays_append.mp hr
    obtain ⟨-, h₁, image, hshow, hblack⟩ := h.frame hd hp hframe
    obtain ⟨f, hf, rfl, hshot⟩ := hd.shot hp
    have hdim' := hdim.advance f.elapsed f.fading scene.units
    obtain ⟨rfl, fs, hfs, hdraws, hks⟩ := ih h₁ hdim' hrest
    refine ⟨rfl, f :: fs, .cons hf hshot hfs, ?_, ?_⟩
    · rw [drawCalls_append, hdraws, Films.film_cons hshot]
    · rw [exchanges_append, callActions_append, showings_append, hshow, run_of_replays hframe]
      exact .cons (fun ht => hblack (hdim'.dark ht)) hks

/-! ## a loop -/

theorem back_film {state : ContextState Rat} {t : CanvasSurface} (hb : s.current = some b)
    (hc : s.contexts.find? b.context = some state) (hclear : state.clearColor = .opaqueBlack)
    (ht : s.surfaces.find? b.surface = some t) {scene : Scene Rat}
    (hdim : scene.swarm.DimmedBy 0) {fs : List Frame} (hfs : 334 ≤ fadingTime fs) :
    (s.run (drawActions (scene.film fs))).surfaces.find? b.surface
      = some { t with back := .black t.back.width t.back.height } := by
  obtain ⟨earlier, last, rfl⟩ : ∃ earlier last, fs = earlier ++ [last] := by
    rcases List.eq_nil_or_concat' fs with rfl | h
    · exact absurd hfs (by decide)
    · exact h
  have hdark : ∀ f ∈ (scene.through (earlier ++ [last])).swarm.fireflies, f.opacity = 0 :=
    (Scene.dimmedBy_through hdim _).dark (by omega)
  have hblack := ContextState.paintAll_film hclear scene earlier last hdark t.back
  rw [run_draws hb hc]
  dsimp only
  rw [Table.find?_modify_self ht, hblack]

theorem Ready.frames (S : Session Rat (Canvas Rat)) (h : Ready b width height S.display)
    (hl : S.lease.bound? = some (displayId, b)) (ticks : List Tick) {scene : Scene Rat}
    (hn : scene.swarm.fireflies.length = population) (hdim : scene.swarm.DimmedBy 0) :
    ∃ S' es fs, (frames ticks scene).outcome S = (.ok .stopped, S') ∧
      S'.trace.toList = S.trace.toList ++ es ∧ Films scene S.control ticks es fs ∧
      drawCalls es = scene.film fs ∧
      Blackens b.surface width height 0 fs (showings S.display (callActions (exchanges es))) := by
  obtain ⟨es, hp, hr⟩ := returns_frames ticks scene S hl hn
  have hcrash : ¬ Crashed es := hp.display.not_crashed reply_isSome
  have hreplay := hp.display.replays hcrash
  rcases hout : (FireflyOverlay.frames ticks scene).outcome S with ⟨_ | exit, S'⟩
  · rw [hout] at hr
    exact absurd hr hcrash
  · rw [hout] at hp hr hreplay
    obtain ⟨-, seen, hloop⟩ := hr
    obtain ⟨rfl, fs, hf, hd, hks⟩ := h.loop hdim hloop hreplay
    exact ⟨S', es, fs, rfl, hp.trace, hf, hd, hks⟩

/-! ## a whole run -/

omit [Root Rat] [Trig Rat] in
theorem noSwaps_of_allDraws {xs : List (Exchange α)} (h : AllDraws xs) :
    xs.filter (fun x => x.call.isSwap) = [] := by
  rw [List.filter_eq_nil_iff]
  intro x hx hs
  have hd := h x hx
  cases hc : x.call with
  | draw c => rw [hc] at hs; cases hs
  | _ => rw [hc] at hd; cases hd

omit [Root Rat] [Trig Rat] in
theorem noSwaps_of_release {l : Lease} {es : List (Event α)} (h : Released l (exchanges es)) :
    (exchanges es).filter (fun x => x.call.isSwap) = [] := by
  rw [List.filter_eq_nil_iff]
  intro x hx hs
  have hq : x.call.isQuery = false := by
    cases hc : x.call <;> rw [hc] at hs <;> first | rfl | cases hs
  have hm : x.call ∈ l.releaseCalls := by
    rw [← h.calls]
    exact List.mem_map_of_mem (List.mem_filter.mpr ⟨hx, by rw [hq]; rfl⟩)
  unfold Lease.releaseCalls at hm
  split at hm
  · exact absurd hm List.not_mem_nil
  · simp only [List.mem_cons, List.mem_append, Option.mem_toList, Option.map_eq_some_iff] at hm
    rcases hm with hm | ⟨_, -, hm⟩ | ⟨_, -, hm⟩
    · rw [hm] at hs; cases hs
    · rw [← hm] at hs; cases hs
    · rw [← hm] at hs; cases hs

omit [Trig Rat] in
/-- The calls that prepare a renderer: the first sets the color that frames clear with, and none of
the others does. -/
theorem Guest.ready {s₀ : Canvas Rat} {w : WindowId} {v : Window} {r : Renderer Rat}
    {texture : TextureId} {es : List (Event Rat)} (h : Guest s₀ w v 0 s) (hi : s₀.Issued)
    (hp : Prepared r texture (exchanges es)) (hr : Replays s (exchanges es) s') :
    Ready s₀.nextHandles.binding v.front.width v.front.height s' := by
  obtain ⟨state, hc⟩ := h.find_context hi
  obtain ⟨back, ht, hsize⟩ := h.find_surface hi
  have hrun := run_of_replays hr
  rw [callActions_of_map hp.calls, run_draws h.current hc] at hrun
  subst hrun
  have hclear : (state.replay (.setClearColor .opaqueBlack :: r.furniture texture)).clearColor
      = .opaqueBlack :=
    ContextState.clearColor_replay (fun c hc => (r.keeps_of_mem_furniture hc).2) _
  have hctx := Table.find?_modify_self hc
    (·.replay (.setClearColor .opaqueBlack :: r.furniture texture))
  have hsrf := Table.find?_modify_self ht fun u =>
    { u with back := state.paintAll (.setClearColor .opaqueBlack :: r.furniture texture) u.back }
  exact ⟨h.opened, ⟨_, hctx, hclear⟩, _, hsrf, (state.sameSize_paintAll _ back).trans hsize⟩

theorem life_blackens (r : Renderer Rat) (before : Requests) (ticks : List Tick) {v : Window}
    (hs : s.Reachable) (hw : s.windows[r.window]? = some v)
    (hv : ¬ (v.front.width = 0 ∨ v.front.height = 0)) :
    ∃ texture fs, Filmed r ticks .initial (r.life before ticks s).2.trace.toList texture fs ∧
      Blackens s.nextHandles.surface v.front.width v.front.height 0 fs
        (showings s (callActions (exchanges (r.life before ticks s).2.trace.toList))) := by
  have hi := hs.issued
  have ha := life_answers r before ticks s
  have hn := ha.not_crashed reply_isSome
  have hr := ha.replays hn
  generalize (r.life before ticks s).2.display = s' at hr
  rcases life_cases r before ticks s with h | ⟨exit, es, -, ht, work, down, l, rfl, hwork, hdown⟩
  · exact absurd h hn
  rw [ht, exchanges_requested, exchanges_append] at hr
  rw [ht]
  obtain ⟨s₁, h₁, -⟩ := replays_append.mp hr
  cases hwork with
  | refused hacq => exact absurd (refused_surface hi hw hacq h₁).1 hv
  | @ran acq prep loop _ h texture seen hacq hp hl =>
    rw [exchanges_append, exchanges_append, hacq, List.append_assoc] at h₁
    obtain ⟨s₂, h₂, h₃⟩ := replays_append.mp h₁
    obtain ⟨s₃, h₄, h₅⟩ := replays_append.mp h₃
    obtain ⟨-, rfl, hg⟩ := guest_of_steps hi hw h₂
    have hready := hg.ready hi hp h₄
    have hdim : (r.scene texture).swarm.DimmedBy 0 :=
      Swarm.dimmedBy_reset (Swarm.random r.settings.surface r.units).1 _
    obtain ⟨rfl, fs, hf, hd, hks⟩ := hready.loop hdim hl h₅
    have hquiet : drawCalls (requestEvents before ++ acq) = [] := by
      rw [drawCalls_append, drawCalls_requestEvents,
        drawCalls_of_noDraws (hacq ▸ Handles.noDraws_steps _ _)]
      rfl
    refine ⟨texture, fs,
      ⟨requestEvents before ++ acq ++ prep, loop, down, by simp, ?_, ?_, ?_, .inr hd⟩, ?_⟩
    · rw [drawCalls_append, hquiet]
      exact hp.drawCalls
    · exact drawCalls_of_noDraws (noDraws_of_release hdown)
    · rw [List.append_assoc, Control.after_append .initial (requestEvents before),
        Control.after_requestEvents]
      exact hf
    · have hsteps : (s.nextHandles.steps r.window : List (Exchange Rat)).filter
          (fun x => x.call.isSwap) = [] := rfl
      rw [exchanges_requested, exchanges_append, exchanges_append, exchanges_append, hacq,
        callActions_append, callActions_append, callActions_append, showings_append,
        showings_append, showings_append, run_append, run_of_replays h₂, run_of_replays h₄,
        showings_of_no_swap hsteps, showings_of_no_swap (noSwaps_of_allDraws hp.allDraws),
        showings_of_no_swap (noSwaps_of_release hdown), List.append_nil]
      exact hks

/-! ## the laws -/

/-- Of frames that are drawn on a canvas. -/
structure BlackoutLaws : Prop where
  /-- what the draw calls of frames leave behind, on whatever is current -/
  back : ∀ (s : Canvas Rat) (b : Binding) (state : ContextState Rat) (t : CanvasSurface)
    (scene : Scene Rat) (fs : List Frame), s.current = some b →
    s.contexts.find? b.context = some state → state.clearColor = .opaqueBlack →
    s.surfaces.find? b.surface = some t →
    (∀ f ∈ scene.swarm.fireflies, 0 ≤ f.opacity ∧ f.opacity ≤ 1) → 334 ≤ fadingTime fs →
    (s.run (drawActions (scene.film fs))).surfaces.find? b.surface
      = some { t with back := .black t.back.width t.back.height }
  /-- what the frame loop shows, of any population -/
  loop : ∀ (S : Session Rat (Canvas Rat)) (b : Binding) (width height : Nat) (ticks : List Tick)
    (scene : Scene Rat), Ready b width height S.display → S.lease.bound? = some (displayId, b) →
    scene.swarm.fireflies.length = population →
    (∀ f ∈ scene.swarm.fireflies, 0 ≤ f.opacity ∧ f.opacity ≤ 1) →
    ∃ S' es fs, (FireflyOverlay.frames ticks scene).outcome S = (.ok .stopped, S') ∧
      S'.trace.toList = S.trace.toList ++ es ∧ Films scene S.control ticks es fs ∧
      drawCalls es = scene.film fs ∧
      Blackens b.surface width height 0 fs (showings S.display (callActions (exchanges es)))
  /-- what a whole run shows in a window with pixels -/
  life : ∀ (r : Renderer Rat) (before : Requests) (ticks : List Tick) (s : Canvas Rat)
    (v : Window), s.Reachable → s.windows[r.window]? = some v →
    ¬ (v.front.width = 0 ∨ v.front.height = 0) →
    ∃ texture fs, Filmed r ticks .initial (r.life before ticks s).2.trace.toList texture fs ∧
      Blackens s.nextHandles.surface v.front.width v.front.height 0 fs
        (showings s (callActions (exchanges (r.life before ticks s).2.trace.toList)))

/-- **A fade-out ends in black.**  Once 334 ms of fading have gone by, however they are cut into
frames, the picture of a frame consists of opaque black pixels, and so does every later one. -/
theorem blackoutLaws : BlackoutLaws where
  back _ _ _ _ _ _ hb hc hclear ht ho hfs :=
    back_film hb hc hclear ht (Swarm.dimmedBy_zero_iff.mpr ho) hfs
  loop S _ _ _ ticks _ h hl hn ho := h.frames S hl ticks hn (Swarm.dimmedBy_zero_iff.mpr ho)
  life r before ticks _ _ hs hw hv := life_blackens r before ticks hs hw hv

end Canvas
end FireflyOverlay
