import FireflyOverlay.Proofs.Canvas.Reachable
import FireflyOverlay.Proofs.Renderer.Frames

/-!
# A renderer on a canvas

A renderer is a guest on a canvas that others may have used.  It adds one context and one surface
behind those that are there, keeps them current, and takes them away again.

* `Guest s₀ w v k s`    the canvas `s` while the guest is there: as `s₀` was before, with what the
                        guest added; `k` frames have been shown in the window `w`, which was `v`
                        before;
* `Guest.draws`, `Guest.ensured`, `Guest.presented`, `Guest.loop`   the guest stays, frame by frame;
* `guest_of_steps`, `Guest.left`   how it arrives and leaves;
* `clears`              the number of frames that a stretch draws, as each clears once;
* `Visit`               how a whole run ends, and what is left of it (`visit_of_runTrace`).
-/

namespace FireflyOverlay

variable {α : Type}

/-! ## frames that are drawn -/

def Call.isClear : Call α → Bool
  | .draw .clear => true
  | _ => false

def clears (xs : List (Exchange α)) : Nat := xs.countP fun x => x.call.isClear

theorem clears_append (xs ys : List (Exchange α)) : clears (xs ++ ys) = clears xs + clears ys :=
  List.countP_append

theorem clears_of_map {xs : List (Exchange α)} {cs : List (DrawCall α)}
    (h : xs.map Exchange.call = cs.map Call.draw) :
    clears xs = cs.countP fun c => (Call.draw c).isClear := by
  have hx : clears xs = (xs.map Exchange.call).countP Call.isClear := by
    rw [List.countP_map]
    rfl
  rw [hx, h, List.countP_map]
  rfl

theorem NoDraws.clears {xs : List (Exchange α)} (h : NoDraws xs) : clears xs = 0 := by
  rw [FireflyOverlay.clears, List.countP_eq_zero]
  intro x hx hc
  have hd := h x hx
  cases hcall : x.call <;> rw [hcall] at hc hd <;> first | cases hc | cases hd

theorem clears_frameSetup (texture : TextureId) :
    (frameSetup texture : List (DrawCall α)).countP (fun c => (Call.draw c).isClear) = 1 := rfl

theorem clears_swarm [Scalar α] (s : Swarm α) :
    s.draws.countP (fun c => (Call.draw c).isClear) = 0 := by
  rw [List.countP_eq_zero]
  intro c hc hd
  obtain ⟨f, -, hf⟩ := List.mem_flatMap.mp hc
  simp only [Firefly.draws, List.mem_cons, List.not_mem_nil, or_false] at hf
  rcases hf with rfl | rfl | rfl | rfl | rfl | rfl | rfl <;> cases hd

theorem Prepared.clears [Scalar α] {r : Renderer α} {texture : TextureId} {xs : List (Exchange α)}
    (h : Prepared r texture xs) : clears xs = 0 := by
  obtain ⟨rest, rfl, hr⟩ := h
  rw [clears_append, clears_of_map hr, List.countP_append]
  have hs : (spriteDraws r.decoder r.assets r.settings.sprite : List (DrawCall α)).countP
      (fun c => (Call.draw c).isClear) = 0 := by
    unfold spriteDraws
    split <;> rfl
  rw [hs]
  rfl

theorem Asked.noDraws {b : Binding} {xs : List (Exchange α)} {r : Bool} (h : Asked b xs r) :
    NoDraws xs := by
  intro x hx
  have hq := h.isQuery x hx
  cases hc : x.call <;> rw [hc] at hq <;> first | rfl | cases hq

theorem Ensured.noDraws {d : DisplayId} {b : Binding} {xs : List (Exchange α)}
    {r : Except DisplayError Unit} (h : Ensured d b xs r) : NoDraws xs := by
  cases h with
  | current ha => exact ha.noDraws
  | rebound ha => exact ha.noDraws.append (by simp [NoDraws, Call.isDraw])
  | lost ha code => exact ha.noDraws.append (by simp [NoDraws, Call.isDraw])

theorem Presented.noDraws {d : DisplayId} {t : SurfaceId} {xs : List (Exchange α)}
    {r : Except DisplayError Unit} (h : Presented d t xs r) : NoDraws xs := by
  cases h <;> simp [NoDraws, Call.isDraw]

/-- A frame clears once. -/
theorem Drawn.clears [Scalar α] [Trig α] {d : DisplayId} {b : Binding} {elapsed : Nat} {c : Control}
    {scene scene' : Scene α} {ready setup lights : List (Event α)}
    (hd : Drawn d b elapsed c scene scene' ready setup lights) :
    clears (exchanges (ready ++ setup ++ lights)) = 1 := by
  rw [exchanges_append, exchanges_append, clears_append, clears_append, hd.ensured.noDraws.clears,
    clears_of_map hd.cleared, clears_of_map hd.drawn, clears_frameSetup, clears_swarm]

/-! ## the guest -/

namespace Canvas

/-- The handles that a canvas gives out next. -/
def nextHandles (s : Canvas α) : Handles :=
  ⟨displayId, (1, 4), configId, s.lastHandle + 1, s.lastHandle + 2⟩

structure Guest (s₀ : Canvas α) (w : WindowId) (v : Window) (k : Nat) (s : Canvas α) : Prop where
  opened : s.opened = true
  contexts : ∃ state, s.contexts = s₀.contexts.insert s₀.nextHandles.context state
  surfaces : ∃ back : Image, s.surfaces = s₀.surfaces.insert s₀.nextHandles.surface ⟨w, back⟩ ∧
    back.SameSize v.front
  current : s.current = some s₀.nextHandles.binding
  shown : ∃ front : Image, s.windows[w]? = some ⟨front, v.frames + k⟩ ∧ front.SameSize v.front
  others : ∀ i, i ≠ w → s.windows[i]? = s₀.windows[i]?

/-! ### while it stays -/

variable {s₀ s s' : Canvas α} {w : WindowId} {v : Window} {k : Nat}

theorem Issued.notMem_context (hi : s₀.Issued) : s₀.nextHandles.context ∉ s₀.contexts.keys :=
  (hi.notMem (Nat.lt_succ_self _)).1

theorem Issued.notMem_surface (hi : s₀.Issued) : s₀.nextHandles.surface ∉ s₀.surfaces.keys :=
  (hi.notMem (Nat.lt_succ_of_lt (Nat.lt_succ_self _))).2

theorem Guest.find_context (h : Guest s₀ w v k s) (hi : s₀.Issued) :
    ∃ state, s.contexts.find? s₀.nextHandles.context = some state := by
  obtain ⟨state, hs⟩ := h.contexts
  exact ⟨state, by rw [hs, Table.find?_insert hi.notMem_context]⟩

theorem Guest.find_surface (h : Guest s₀ w v k s) (hi : s₀.Issued) :
    ∃ back : Image, s.surfaces.find? s₀.nextHandles.surface = some ⟨w, back⟩ ∧
      back.SameSize v.front := by
  obtain ⟨back, hs, hb⟩ := h.surfaces
  exact ⟨back, by rw [hs, Table.find?_insert hi.notMem_surface], hb⟩

variable [Scalar α] [Root α]

/-- A draw call changes only what the guest added. -/
theorem Guest.draw (h : Guest s₀ w v k s) (hi : s₀.Issued) (c : DrawCall α) :
    Guest s₀ w v k (s.draw c).2 := by
  obtain ⟨state, hc⟩ := h.contexts
  obtain ⟨back, hs, hb⟩ := h.surfaces
  have hcur : s.currentState? = some (s₀.nextHandles.binding, state) := by
    have hf : s.contexts.find? s₀.nextHandles.binding.context = some state := by
      rw [hc]
      exact Table.find?_insert hi.notMem_context state
    simp only [currentState?, h.current, Option.bind_eq_bind, Option.bind_some, hf]
    rfl
  have hd : (s.draw c).2 = s.drawOn s₀.nextHandles.binding state c := by
    simp only [Canvas.draw, hcur]
  rw [hd]
  refine ⟨h.opened, ⟨state.apply c, ?_⟩, ⟨state.paint c back, ?_, ?_⟩, h.current, h.shown, h.others⟩
  · dsimp only [drawOn, Handles.binding]
    rw [hc, Table.modify_insert hi.notMem_context]
  · dsimp only [drawOn, Handles.binding]
    rw [hs, Table.modify_insert hi.notMem_surface]
  · exact (state.sameSize_paint c back).trans hb

theorem Guest.draws (h : Guest s₀ w v k s) (hi : s₀.Issued) {xs : List (Exchange α)}
    (hd : AllDraws xs) (hr : Replays s xs s') : Guest s₀ w v k s' := by
  induction xs generalizing s with
  | nil => exact (show s' = s from hr) ▸ h
  | cons x xs ih =>
    obtain ⟨hx, hxs⟩ := List.forall_mem_cons.mp hd
    obtain ⟨call, reply⟩ := x
    cases call with
    | draw c => exact ih (h.draw hi c) hxs hr.2
    | _ => cases hx

/-- What is current is the guest's, so it never has to bind again. -/
theorem Guest.ensured (h : Guest s₀ w v k s) {xs : List (Exchange α)}
    {r : Except DisplayError Unit} (he : Ensured displayId s₀.nextHandles.binding xs r)
    (hr : Replays s xs s') : r = .ok () ∧ s' = s := by
  have hc : step .currentContext s = (.answer (some s₀.nextHandles.binding.context), s) := by
    show (Reaction.answer (s.current.map (·.context)), s) = _
    rw [h.current]
    rfl
  have hs : step .currentSurface s = (.answer (some s₀.nextHandles.binding.surface), s) := by
    show (Reaction.answer (s.current.map (·.surface)), s) = _
    rw [h.current]
    rfl
  have hf : ∀ {ys zs : List (Exchange α)} {s'}, Asked s₀.nextHandles.binding ys false →
      ¬ Replays s (ys ++ zs) s' := by
    intro ys zs s' ha hr
    cases ha with
    | otherContext c hn => exact hn (hr.answer hc).1
    | otherSurface t hn => exact hn ((hr.answer hc).2.answer hs).1
  cases he with
  | current ha =>
    cases ha
    exact ⟨rfl, ((hr.answer hc).2.answer hs).2⟩
  | rebound ha => exact absurd hr (hf ha)
  | lost ha code => exact absurd hr (hf ha)

theorem Guest.presented (h : Guest s₀ w v k s) (hi : s₀.Issued) {xs : List (Exchange α)}
    {r : Except DisplayError Unit} (hp : Presented displayId s₀.nextHandles.surface xs r)
    (hr : Replays s xs s') : r = .ok () ∧ Guest s₀ w v (k + 1) s' := by
  obtain ⟨back, hf, hb⟩ := h.find_surface hi
  obtain ⟨front, hw, -⟩ := h.shown
  have hstep := step_swap h.opened hf
  cases hp with
  | refused code => cases (hr.answer hstep).1
  | shown =>
    obtain ⟨-, rfl⟩ := hr.answer hstep
    refine ⟨rfl, h.opened, h.contexts, h.surfaces, h.current, ⟨back, ?_, hb⟩, fun i hi => ?_⟩
    · show (s.windows.modify w _)[w]? = _
      rw [List.getElem?_modify_eq, hw]
      rfl
    · show (s.windows.modify w _)[i]? = _
      rw [List.getElem?_modify_ne _ _ (Ne.symm hi)]
      exact h.others i hi

theorem Guest.drawn [Trig α] {elapsed : Nat} {c : Control} {scene scene' : Scene α}
    {ready setup lights : List (Event α)} (h : Guest s₀ w v k s) (hi : s₀.Issued)
    (hd : Drawn displayId s₀.nextHandles.binding elapsed c scene scene' ready setup lights)
    (hr : Replays s (exchanges (ready ++ setup ++ lights)) s') : Guest s₀ w v k s' := by
  rw [exchanges_append, exchanges_append, List.append_assoc] at hr
  obtain ⟨s₁, h₁, h₂⟩ := replays_append.mp hr
  obtain ⟨-, rfl⟩ := h.ensured hd.ensured h₁
  exact h.draws hi (hd.cleared.allDraws.append hd.drawn.allDraws) h₂

/-- The loop goes on until it is stopped, and shows every frame that it draws. -/
theorem Guest.loop [Trig α] {ticks : List Tick} {c : Control} {scene : Scene α} {seen : List Bool}
    {es : List (Event α)} {exit : Exit} (h : Guest s₀ w v k s) (hi : s₀.Issued)
    (hl : Loop displayId s₀.nextHandles.binding ticks c scene seen es exit)
    (hr : Replays s (exchanges es) s') :
    exit = .stopped ∧ Guest s₀ w v (k + clears (exchanges es)) s' := by
  induction hl generalizing s k with
  | finished | stopped =>
    rw [exchanges_requestEvents] at hr ⊢
    exact ⟨rfl, (show s' = s from hr) ▸ h⟩
  | lost _ _ hen =>
    -- nobody else binds on this canvas, so what was current still is
    rw [exchanges_requested] at hr
    cases (h.ensured hen hr).1
  | @unpresented t ticks c scene scene' ready setup lights shown e _ hd hp =>
    -- the surface of the guest is live, so its swap is granted
    rw [exchanges_frameEvents] at hr
    obtain ⟨s₁, h₁, hr⟩ := replays_append.mp hr
    cases ((h.drawn hi hd h₁).presented hi hp hr).1
  | @frame t ticks c scene scene' ready setup lights shown seen es exit _ hd hp _ ih =>
    rw [exchanges_append, exchanges_frameEvents] at hr
    obtain ⟨s₂, hr, hrest⟩ := replays_append.mp hr
    obtain ⟨s₁, h₁, h₂⟩ := replays_append.mp hr
    obtain ⟨he, hg⟩ := ih ((h.drawn hi hd h₁).presented hi hp h₂).2 hrest
    refine ⟨he, ?_⟩
    have hk : clears (exchanges (frameEvents t.requests ready setup lights shown ++ es))
        = 1 + clears (exchanges es) := by
      rw [exchanges_append, exchanges_frameEvents, clears_append, clears_append, hd.clears,
        hp.noDraws.clears]
    rw [hk, ← Nat.add_assoc]
    exact hg

/-! ### how it arrives -/

/-- After the first four steps of an acquisition. -/
def withContext (s : Canvas α) : Canvas α :=
  { s with
    opened := true
    lastHandle := s.lastHandle + 1
    contexts := s.contexts.insert (s.lastHandle + 1) .initial }

theorem replays_display {d : Option DisplayId} {xs : List (Exchange α)}
    (hr : Replays s (⟨.defaultDisplay, d⟩ :: xs) s') : d = some displayId ∧ Replays s xs s' :=
  hr.answer rfl

theorem replays_open {r : Option (Nat × Nat)} {xs : List (Exchange α)}
    (hr : Replays s (⟨.openDisplay displayId, r⟩ :: xs) s') :
    r = some (1, 4) ∧ Replays { s with opened := true } xs s' :=
  hr.answer (step_openDisplay s)

theorem replays_config {r : Except ErrorCode (Option ConfigId)} {xs : List (Exchange α)}
    (ho : s.opened = true) (hr : Replays s (⟨.chooseConfig displayId .overlay, r⟩ :: xs) s') :
    r = .ok (some configId) ∧ Replays s xs s' := hr.answer (step_chooseConfig ho)

theorem replays_context {r : Option ContextId} {xs : List (Exchange α)}
    (hr : Replays { s with opened := true } (⟨.createContext displayId configId, r⟩ :: xs) s') :
    r = some (s.lastHandle + 1) ∧ Replays s.withContext xs s' :=
  hr.answer (step_createContext rfl)

/-- The first four steps are never refused. -/
theorem replays_take_four {h : Handles} {xs : List (Exchange α)}
    (hr : Replays s ((h.steps w).take 4 ++ xs) s') :
    h.display = displayId ∧ h.version = (1, 4) ∧ h.config = configId ∧
      h.context = s.nextHandles.context ∧ Replays s.withContext xs s' := by
  obtain ⟨d, version, config, context, surface⟩ := h
  obtain ⟨h₁, hr⟩ := replays_display hr
  cases h₁
  obtain ⟨h₂, hr⟩ := replays_open hr
  cases h₂
  obtain ⟨h₃, hr⟩ := replays_config rfl hr
  cases h₃
  obtain ⟨h₄, hr⟩ := replays_context hr
  cases h₄
  exact ⟨rfl, rfl, rfl, rfl, hr⟩

theorem guest_of_steps {h : Handles} (hi : s₀.Issued) (hw : s₀.windows[w]? = some v)
    (hr : Replays s₀ (h.steps w : List (Exchange α)) s') :
    ¬ (v.front.width = 0 ∨ v.front.height = 0) ∧ h = s₀.nextHandles ∧ Guest s₀ w v 0 s' := by
  have hfour : Replays s₀ ((h.steps w).take 4 ++ (h.steps w : List (Exchange α)).drop 4) s' := hr
  obtain ⟨d, version, config, context, surface⟩ := h
  obtain ⟨h₁, h₂, h₃, h₄, hr⟩ := replays_take_four hfour
  cases h₁; cases h₂; cases h₃; cases h₄
  by_cases hv : v.front.width = 0 ∨ v.front.height = 0
  · cases (hr.answer (step_createSurface_empty rfl hw hv)).1
  obtain ⟨h₅, hr⟩ := hr.answer (step_createSurface rfl hw hv)
  cases h₅
  obtain ⟨-, rfl⟩ := hr.answer (step_bind rfl
    (Table.find?_insert hi.notMem_context .initial) (Table.find?_insert hi.notMem_surface _))
  have hc := Table.modify_insert hi.notMem_context ContextState.initial
    (·.defaultViewport v.front.width v.front.height)
  exact ⟨hv, rfl, rfl, ⟨_, hc⟩, ⟨_, rfl, rfl, rfl⟩, rfl, ⟨v.front, hw, .refl _⟩, fun _ _ => rfl⟩

/-- An acquisition fails only for a window without pixels. -/
theorem refused_surface {xs : List (Exchange α)} {e : DisplayError} {l : Lease}
    (hi : s₀.Issued) (hw : s₀.windows[w]? = some v)
    (ha : Acquisition w .empty xs (.error e) l) (hr : Replays s₀ xs s') :
    (v.front.width = 0 ∨ v.front.height = 0) ∧
      e = .createSurfaceFailed .badNativeWindow ∧ l = s₀.nextHandles.hold 4 .empty ∧
      s' = { s₀.withContext with lastError := .success } := by
  cases ha with
  | refused h k x ys _ hk hx =>
    obtain ⟨d, version, config, context, surface⟩ := h
    rcases k with _ | k
    · cases hx <;> cases hk
      cases (replays_display hr).1
    obtain ⟨h₁, hr⟩ := replays_display hr
    cases h₁
    rcases k with _ | k
    · cases hx <;> cases hk
      cases (replays_open hr).1
    obtain ⟨h₂, hr⟩ := replays_open hr
    cases h₂
    rcases k with _ | k
    · cases hx <;> cases hk <;> cases (replays_config rfl hr).1
    obtain ⟨h₃, hr⟩ := replays_config rfl hr
    cases h₃
    rcases k with _ | k
    · cases hx <;> cases hk
      cases (replays_context hr).1
    obtain ⟨h₄, hr⟩ := replays_context hr
    cases h₄
    by_cases hv : v.front.width = 0 ∨ v.front.height = 0
    · rcases k with _ | k
      · cases hx <;> cases hk
        obtain ⟨-, hr⟩ := hr.answer (step_createSurface_empty rfl hw hv)
        obtain ⟨rfl, rfl⟩ := hr.answer rfl
        exact ⟨hv, rfl, rfl, rfl⟩
      · cases (hr.answer (step_createSurface_empty rfl hw hv)).1
    · rcases k with _ | k
      · cases hx <;> cases hk
        cases (hr.answer (step_createSurface rfl hw hv)).1
      obtain ⟨h₅, hr⟩ := hr.answer (step_createSurface rfl hw hv)
      cases h₅
      rcases k with _ | k
      · cases hx <;> cases hk
        cases (hr.answer (step_bind rfl (Table.find?_insert hi.notMem_context .initial)
          (Table.find?_insert hi.notMem_surface _))).1
      · cases hk

/-! ### how it leaves -/

/-- The contexts and surfaces of `s` and no others are there, and nothing is current. -/
structure Restored (s s' : Canvas α) : Prop where
  contexts : s'.contexts = s.contexts
  surfaces : s'.surfaces = s.surfaces
  current : s'.current = none

omit [Scalar α] [Root α] in
theorem replays_tried [Display α (Canvas α)] {t : Canvas α} {x : Bool → Exchange α}
    {xs ys : List (Exchange α)} (h : Tried x xs)
    (hx : ∀ done zs, Replays s (x done :: zs) s' → done = true ∧ Replays t zs s')
    (hr : Replays s (xs ++ ys) s') : Replays t ys s' := by
  cases h with
  | done => exact (hx _ _ hr).2
  | refused code => cases (hx _ _ hr).1

theorem Guest.left {xs : List (Exchange α)} (h : Guest s₀ w v k s) (hi : s₀.Issued)
    (hd : Released (s₀.nextHandles.hold 6 .empty) xs) (hr : Replays s xs s') :
    Restored s₀ s' ∧ s'.windows = s.windows := by
  obtain ⟨us, cs, ss, rfl, hu, hc, hs⟩ := hd
  obtain ⟨state, hctx⟩ := h.find_context hi
  obtain ⟨back, hsrf, -⟩ := h.find_surface hi
  rw [List.append_assoc] at hr
  have h₁ := replays_tried hu (fun _ _ hz => hz.answer (step_unbind h.opened)) hr
  have ho₁ : Canvas.opened { s with current := none } = true := h.opened
  have h₂ := replays_tried hc (fun _ _ hz => hz.answer (step_destroyContext ho₁ hctx)) h₁
  have ho₂ : Canvas.opened { s with
    contexts := s.contexts.erase s₀.nextHandles.context
    current := none } = true := h.opened
  rw [← List.append_nil ss] at h₂
  have h₃ := replays_tried hs (fun _ _ hz => hz.answer (step_destroySurface ho₂ hsrf)) h₂
  obtain rfl := h₃
  obtain ⟨_, hcs⟩ := h.contexts
  obtain ⟨_, hss, -⟩ := h.surfaces
  refine ⟨⟨?_, ?_, rfl⟩, rfl⟩
  · show s.contexts.erase _ = _
    rw [hcs, Table.erase_insert hi.notMem_context]
  · show s.surfaces.erase _ = _
    rw [hss, Table.erase_insert hi.notMem_surface]

/-- Without a surface there is only the context to take away. -/
theorem left_withContext {xs : List (Exchange α)} (hi : s₀.Issued)
    (hd : Released (s₀.nextHandles.hold 4 .empty) xs)
    (hr : Replays { s₀.withContext with lastError := .success } xs s') :
    Restored s₀ s' ∧ s'.windows = s₀.windows := by
  obtain ⟨us, cs, ss, rfl, hu, hc, hs⟩ := hd
  obtain rfl := hs
  rw [List.append_nil] at hr
  have h₁ := replays_tried hu (fun _ _ hz => hz.answer (step_unbind rfl)) hr
  rw [← List.append_nil cs] at h₁
  have h₂ := replays_tried hc (fun _ _ hz => hz.answer
    (step_destroyContext rfl (Table.find?_insert hi.notMem_context .initial))) h₁
  obtain rfl := h₂
  exact ⟨⟨Table.erase_insert hi.notMem_context _, rfl, rfl⟩, rfl⟩

/-! ## a whole visit -/

/-- What is left of a run in the window `w`, which was `v` before; by its calls `xs` the canvas `s`
became `s'`.  The run fails only for a window without pixels, and is stopped otherwise.  The window
has then shown one more frame for each that was drawn, in the size that it had; and the contexts and
surfaces are those that were there before, as they were. -/
structure Visit (s : Canvas α) (w : WindowId) (v : Window) (exit : Exit) (xs : List (Exchange α))
    (s' : Canvas α) : Prop where
  failed : exit = .initFailed (.createSurfaceFailed .badNativeWindow) ↔
    v.front.width = 0 ∨ v.front.height = 0
  stopped : exit = .stopped ↔ ¬ (v.front.width = 0 ∨ v.front.height = 0)
  undrawn : exit ≠ .stopped → clears xs = 0
  shown : ∃ front : Image, s'.windows[w]? = some ⟨front, v.frames + clears xs⟩ ∧
    front.SameSize v.front
  others : ∀ i, i ≠ w → s'.windows[i]? = s.windows[i]?
  restored : Restored s s'

theorem visit_of_runTrace [Trig α] {r : Renderer α} {ticks : List Tick} {c : Control}
    {es : List (Event α)} {exit : Exit} (ht : RunTrace r ticks c es exit) (hi : s.Issued)
    (hw : s.windows[r.window]? = some v) (hr : Replays s (exchanges es) s') :
    Visit s r.window v exit (exchanges es) s' := by
  obtain ⟨work, down, l, rfl, hwork, hdown⟩ := ht
  rw [exchanges_append] at hr ⊢
  obtain ⟨s₁, h₁, h₂⟩ := replays_append.mp hr
  have hc : clears (exchanges work ++ exchanges down) = clears (exchanges work) := by
    rw [clears_append, (noDraws_of_release hdown).clears, Nat.add_zero]
  cases hwork with
  | refused hacq =>
    obtain ⟨hv, rfl, rfl, rfl⟩ := refused_surface hi hw hacq h₁
    obtain ⟨hres, hwin⟩ := left_withContext hi hdown h₂
    rw [hacq.noDraws.clears] at hc
    refine ⟨iff_of_true rfl hv, iff_of_false nofun (fun h => h hv), fun _ => hc, ?_, ?_, hres⟩
    · rw [hc, hwin]
      exact ⟨v.front, hw, .refl _⟩
    · rw [hwin]
      exact fun _ _ => rfl
  | @ran acq prep loop _ h texture seen hacq hp hl =>
    rw [exchanges_append, exchanges_append, hacq, List.append_assoc] at h₁
    obtain ⟨s₂, h₃, h₄⟩ := replays_append.mp h₁
    obtain ⟨s₃, h₅, h₆⟩ := replays_append.mp h₄
    obtain ⟨hv, rfl, hg⟩ := guest_of_steps hi hw h₃
    obtain ⟨rfl, hg'⟩ := (hg.draws hi hp.allDraws h₅).loop hi hl h₆
    obtain ⟨hres, hwin⟩ := hg'.left hi hdown h₂
    have hz : clears (exchanges (acq ++ prep ++ loop)) = clears (exchanges loop) := by
      rw [exchanges_append, exchanges_append, hacq, clears_append, clears_append,
        (Handles.noDraws_steps _ _).clears, hp.clears]
      simp
    rw [hz] at hc
    rw [Nat.zero_add] at hg'
    refine ⟨iff_of_false nofun hv, iff_of_true rfl hv, fun h => absurd rfl h, ?_, ?_, hres⟩
    · rw [hc, hwin]
      exact hg'.shown
    · rw [hwin]
      exact hg'.others

end Canvas
end FireflyOverlay
