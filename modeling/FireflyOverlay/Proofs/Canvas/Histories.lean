import FireflyOverlay.Proofs.Canvas.Handles

/-!
# What contexts and surfaces went through

The state of a context and the image of a surface come from the draw calls that were carried out on
them, and from nothing else.

* `ContextState.replay`, `ContextState.replies`   draw calls on a state, one after the other, and
                       their answers;
* `Canvas.Stroke`      a draw call that is carried out: on what, in which state, with which answer;
                       `Canvas.strokes` are those of a run;
* `Canvas.firstSize`   the size of the surface that a context was first bound to;
* `ContextHistory`     a context is what its strokes make of a fresh one;
* `SurfaceHistory`     the image of a surface is what the strokes on it make of a black one.
-/

namespace FireflyOverlay

variable {α : Type}

/-! ## draw calls one after the other -/

/-- Only these change an image. -/
def DrawCall.paints : DrawCall α → Bool
  | .clear | .drawElements _ => true
  | _ => false

namespace ContextState

def replay (s : ContextState α) (cs : List (DrawCall α)) : ContextState α := cs.foldl apply s

def replies (s : ContextState α) : List (DrawCall α) → List (Exchange α)
  | [] => []
  | c :: cs => ⟨.draw c, Canvas.replyOf (some s) c⟩ :: (s.apply c).replies cs

/-- A new context with a viewport. -/
def fresh [Scalar α] (viewport : Option (Nat × Nat)) : ContextState α := { initial with viewport }

variable {s : ContextState α}

theorem replay_append (s : ContextState α) (cs ds : List (DrawCall α)) :
    s.replay (cs ++ ds) = (s.replay cs).replay ds := List.foldl_append

theorem replies_append (s : ContextState α) (cs ds : List (DrawCall α)) :
    s.replies (cs ++ ds) = s.replies cs ++ (s.replay cs).replies ds := by
  induction cs generalizing s with
  | nil => rfl
  | cons c cs ih => exact congrArg (_ :: ·) (ih (s.apply c))

theorem isSome_viewport_apply (h : s.viewport.isSome = true) (c : DrawCall α) :
    (s.apply c).viewport.isSome = true := by
  have hm : ∀ f, (s.modifyBound f).viewport = s.viewport := fun f => by
    unfold modifyBound
    split <;> rfl
  cases c with
  | setViewport width height => rfl
  | setTextureFilters min mag => exact (congrArg Option.isSome (hm _)).trans h
  | uploadTexture width height rgba =>
    rcases s.apply_uploadTexture width height rgba with hs | ⟨f, hs⟩
    · rwa [hs]
    · rwa [hs, hm]
  | _ => exact h

theorem isSome_viewport_replay (h : s.viewport.isSome = true) (cs : List (DrawCall α)) :
    (s.replay cs).viewport.isSome = true := by
  induction cs generalizing s with
  | nil => exact h
  | cons c cs ih => exact ih (isSome_viewport_apply h c)

/-- A viewport is given only once. -/
theorem defaultViewport_of_isSome (h : s.viewport.isSome = true) (width height : Nat) :
    s.defaultViewport width height = s := by
  obtain ⟨size, hs⟩ := Option.isSome_iff_exists.mp h
  rw [defaultViewport, hs]
  show { s with viewport := some size } = s
  rw [← hs]

theorem paint_of_not_paints [Scalar α] [Root α] (s : ContextState α) {c : DrawCall α}
    (h : c.paints = false) (m : Image) : s.paint c m = m := by
  cases c <;> first | rfl | cases h

end ContextState

namespace Canvas

/-! ## strokes -/

structure Stroke (α : Type) where
  binding : Binding
  /-- the state that the call finds -/
  state : ContextState α
  call : DrawCall α
  reply : call.Reply

def Stroke.exchange (k : Stroke α) : Exchange α := ⟨.draw k.call, k.reply⟩

def stroke? (s : Canvas α) : Exchange α → Option (Stroke α)
  | ⟨.draw c, r⟩ => s.currentState?.map fun (b, state) => ⟨b, state, c, r⟩
  | _ => none

def inContext (n : ContextId) (ks : List (Stroke α)) : List (Stroke α) :=
  ks.filter fun k => k.binding.context = n

def onSurface (n : SurfaceId) (ks : List (Stroke α)) : List (Stroke α) :=
  ks.filter fun k => k.binding.surface = n

/-- Of a granted binding of a context, the size of the surface. -/
def boundSize? (n : ContextId) (s : Canvas α) : Exchange α → Option (Nat × Nat)
  | ⟨.makeCurrent _ (some b), true⟩ =>
    if b.context = n then
      (s.surfaces.find? b.surface).map fun t => (t.back.width, t.back.height)
    else none
  | _ => none

theorem stroke?_draw {s : Canvas α} {b : Binding} {state : ContextState α}
    (h : s.currentState? = some (b, state)) (c : DrawCall α) (r : c.Reply) :
    s.stroke? ⟨.draw c, r⟩ = some ⟨b, state, c, r⟩ := by
  rw [stroke?, h]
  rfl

theorem stroke?_of_failed (s : Canvas α) {x : Exchange α} (h : x.failed = true) :
    s.stroke? x = none := by
  unfold stroke?
  split <;> first | rfl | cases h

theorem boundSize?_of_failed (n : ContextId) (s : Canvas α) {x : Exchange α}
    (h : x.failed = true) : boundSize? n s x = none := by
  unfold boundSize?
  split <;> first | rfl | cases h

theorem inContext_append (n : ContextId) (ks ls : List (Stroke α)) :
    inContext n (ks ++ ls) = inContext n ks ++ inContext n ls := List.filter_append ..

theorem onSurface_append (n : SurfaceId) (ks ls : List (Stroke α)) :
    onSurface n (ks ++ ls) = onSurface n ks ++ onSurface n ls := List.filter_append ..

variable [Scalar α] [Root α]

/-- The image after strokes, each in its own state. -/
def painted (m : Image) (ks : List (Stroke α)) : Image :=
  ks.foldl (fun m k => k.state.paint k.call m) m

theorem painted_append (m : Image) (ks ls : List (Stroke α)) :
    painted m (ks ++ ls) = painted (painted m ks) ls := List.foldl_append

/-- Strokes that do not paint can be left out. -/
theorem painted_filter (m : Image) (ks : List (Stroke α)) :
    painted m (ks.filter (·.call.paints)) = painted m ks := by
  induction ks generalizing m with
  | nil => rfl
  | cons k ks ih =>
    rw [List.filter_cons]
    split
    · exact ih (k.state.paint k.call m)
    · next hk =>
      rw [ih]
      exact congrArg (painted · ks)
        (k.state.paint_of_not_paints (Bool.eq_false_iff.mpr hk) m).symm

theorem draw_unbound {s : Canvas α} (h : s.current = none) (c : DrawCall α) :
    (step (.draw c) s).2 = s := by
  have hc : s.currentState? = none := by simp [currentState?, h]
  show (s.draw c).2 = s
  simp only [draw, hc]

def strokes (s : Canvas α) (as : List (Action α)) : List (Stroke α) := seen stroke? s as

/-- The size of the surface that a context was first bound to. -/
def firstSize (n : ContextId) (s : Canvas α) (as : List (Action α)) : Option (Nat × Nat) :=
  (seen (boundSize? n) s as).head?

/-! ## the history of a context -/

variable {s s' : Canvas α} {n : Nat}

/-- Of the context `n`, after the strokes `ks` in it; its first surface was of the size `first`. -/
structure ContextHistory (n : ContextId) (first : Option (Nat × Nat)) (ks : List (Stroke α))
    (s : Canvas α) : Prop where
  state : ∀ state, s.contexts.find? n = some state →
    state = (ContextState.fresh first).replay (ks.map Stroke.call) ∧
      ks.map Stroke.exchange = (ContextState.fresh first).replies (ks.map Stroke.call)
  unbound : first = none → ks = []
  current : ∀ b, s.current = some b → b.context = n → first.isSome = true
  unmade : s.lastHandle < n → first = none

variable {first : Option (Nat × Nat)} {ks : List (Stroke α)}

omit [Root α] in
/-- Nothing happens to the context, unless it is destroyed. -/
theorem ContextHistory.quiet (h : ContextHistory n first ks s)
    (hc : ∀ state, s'.contexts.find? n = some state → s.contexts.find? n = some state)
    (hb : ∀ b, s'.current = some b → b.context = n → s.current = some b)
    (hl : s.lastHandle ≤ s'.lastHandle) : ContextHistory n first ks s' where
  state state hf := h.state state (hc state hf)
  unbound := h.unbound
  current b hcur hn := h.current b (hb b hcur hn) hn
  unmade hn := h.unmade (Nat.lt_of_le_of_lt hl hn)

omit [Root α] in
/-- The first binding gives the viewport; later ones change nothing. -/
theorem ContextHistory.bind (h : ContextHistory n first ks s) {b : Binding}
    (hi : b.context ≤ s.lastHandle) (width height : Nat) :
    ContextHistory n (first.or (if b.context = n then some (width, height) else none)) ks
      { s with
        contexts := s.contexts.modify b.context (·.defaultViewport width height)
        current := some b } := by
  by_cases hn : b.context = n
  · rw [if_pos hn]
    refine ⟨fun state hf => ?_, fun he => ?_, fun _ _ _ => ?_, fun hl => ?_⟩
    · obtain ⟨old, hold, ⟨-, rfl⟩ | ⟨hne, -⟩⟩ :=
        Table.find?_of_modify s.contexts (·.defaultViewport width height) hf
      case inr => exact absurd hn.symm hne
      obtain ⟨hstate, hreplies⟩ := h.state old hold
      cases first with
      | none =>
        obtain rfl := h.unbound rfl
        rw [hstate]
        exact ⟨rfl, rfl⟩
      | some size =>
        have hv : old.viewport.isSome = true := by
          rw [hstate]
          exact ContextState.isSome_viewport_replay rfl _
        rw [ContextState.defaultViewport_of_isSome hv]
        exact ⟨hstate, hreplies⟩
    · cases first <;> cases he
    · cases first <;> rfl
    · exact absurd hl (Nat.not_lt_of_le (hn ▸ hi))
  · rw [if_neg hn, Option.or_none]
    refine h.quiet (fun state hf => ?_) (fun b' hb hn' => ?_) (Nat.le_refl _)
    · obtain ⟨old, hold, ⟨he, -⟩ | ⟨-, rfl⟩⟩ :=
        Table.find?_of_modify s.contexts (·.defaultViewport width height) hf
      · exact absurd he.symm hn
      · exact hold
    · cases hb
      exact absurd hn' hn

theorem ContextHistory.draw (h : ContextHistory n first ks s) {b : Binding}
    {state : ContextState α} (hb : s.current = some b)
    (hs : s.contexts.find? b.context = some state) (c : DrawCall α) :
    ContextHistory n first (ks ++ inContext n [⟨b, state, c, replyOf (some state) c⟩])
      (s.drawOn b state c) := by
  by_cases hn : b.context = n
  · have hin : inContext n [⟨b, state, c, replyOf (some state) c⟩]
        = [(⟨b, state, c, replyOf (some state) c⟩ : Stroke α)] :=
      List.filter_cons_of_pos (decide_eq_true hn)
    rw [hin]
    refine ⟨fun state' hf => ?_, fun hf => ?_, h.current, h.unmade⟩
    · obtain ⟨old, hold, ⟨-, rfl⟩ | ⟨hne, -⟩⟩ := Table.find?_of_modify s.contexts (·.apply c) hf
      case inr => exact absurd hn.symm hne
      rw [← hn, hs] at hold
      cases hold
      obtain ⟨hstate, hreplies⟩ := h.state state (hn ▸ hs)
      rw [List.map_append, List.map_append, ContextState.replay_append,
        ContextState.replies_append, ← hstate, ← hreplies]
      exact ⟨rfl, rfl⟩
    · have := h.current b hb hn
      rw [hf] at this
      cases this
  · have hin : inContext n [(⟨b, state, c, replyOf (some state) c⟩ : Stroke α)] = [] :=
      List.filter_cons_of_neg (by simpa using hn)
    rw [hin, List.append_nil]
    refine h.quiet (fun state' hf => ?_) (fun _ hb _ => hb) (Nat.le_refl _)
    obtain ⟨old, hold, ⟨he, -⟩ | ⟨-, rfl⟩⟩ := Table.find?_of_modify s.contexts (·.apply c) hf
    · exact absurd he.symm hn
    · exact hold

theorem ContextHistory.change {c : Call α} {r : c.Reply} (h : ContextHistory n first ks s)
    (hi : Issued s) (hc : Change s c r s') :
    ContextHistory n (first.or (boundSize? n s ⟨c, r⟩))
      (ks ++ inContext n (s.stroke? ⟨c, r⟩).toList) s' := by
  have hquiet : ∀ {s'}, ContextHistory n first ks s' →
      ContextHistory n (first.or none) (ks ++ inContext n []) s' := fun hh => by
    rw [Option.or_none]
    exact (List.append_nil ks).symm ▸ hh
  cases hc with
  | refused hf hr ht =>
    rw [boundSize?_of_failed n s hr, stroke?_of_failed s hr]
    exact hquiet (h.quiet (fun _ hf => hf) (fun _ hb _ => hb) (Nat.le_refl _))
  | ignored c hn =>
    show ContextHistory n (first.or none) (ks ++ inContext n (s.currentState?.map _).toList) s
    rw [hn]
    exact hquiet h
  | named | opened | chosen | shown | toldContext | toldSurface | toldCode =>
    exact hquiet (h.quiet (fun _ hf => hf) (fun _ hb _ => hb) (Nat.le_refl _))
  | madeSurface => exact hquiet (h.quiet (fun _ hf => hf) (fun _ hb _ => hb) (Nat.le_succ _))
  | unbound => exact hquiet (h.quiet (fun _ hf => hf) nofun (Nat.le_refl _))
  | endedSurface =>
    exact hquiet (h.quiet (fun _ hf => hf) (fun _ hb _ => (Option.filter_eq_some_iff.mp hb).1)
      (Nat.le_refl _))
  | endedContext =>
    exact hquiet (h.quiet (fun _ hf => Table.find?_of_erase hf)
      (fun _ hb _ => (Option.filter_eq_some_iff.mp hb).1) (Nat.le_refl _))
  | madeContext ho =>
    refine hquiet ⟨fun state hf => ?_, h.unbound, h.current,
      fun hn => h.unmade (Nat.lt_of_succ_lt hn)⟩
    have hnew := (hi.notMem (Nat.lt_add_one s.lastHandle)).1
    rcases Table.find?_of_insert hnew hf with ⟨hn, rfl⟩ | hold
    · have hfirst := h.unmade (hn ▸ Nat.lt_add_one s.lastHandle)
      rw [hfirst, h.unbound hfirst]
      exact ⟨rfl, rfl⟩
    · exact h.state state hold
  | @bound b state t ho hc ht =>
    have hsize : boundSize? n s ⟨.makeCurrent displayId (some b), true⟩
        = if b.context = n then some (t.back.width, t.back.height) else none := by
      rw [boundSize?, ht]
      rfl
    have hk : ks ++ inContext n [] = ks := List.append_nil ks
    rw [hsize]
    exact hk.symm ▸ h.bind (hi.contexts _ (Table.mem_keys_of_find? hc)) t.back.width t.back.height
  | @drawn c b state hcur =>
    obtain ⟨hb, hs⟩ := currentState?_eq_some.mp hcur
    rw [stroke?_draw hcur]
    exact (Option.or_none (o := first)).symm ▸ h.draw hb hs c

omit [Root α] in
theorem contextHistory_initial (n : ContextId) :
    ContextHistory n none [] (initial : Canvas α) :=
  ⟨nofun, fun _ => rfl, nofun, fun _ => rfl⟩

theorem contextHistory_run (n : ContextId) (as : List (Action α)) :
    ContextHistory n (firstSize n .initial as) (inContext n (strokes .initial as))
      (initial.run as) := by
  refine run_induction (P := fun as s => ContextHistory n (firstSize n .initial as)
    (inContext n (strokes .initial as)) s) (contextHistory_initial n) (fun as w v ih => ?_)
    (fun as c r s' hr hc ih => ?_) as
  · rw [firstSize, strokes, seen_window, seen_window]
    exact ih.quiet (fun _ hf => hf) (fun _ hb _ => hb) (Nat.le_refl _)
  · rw [firstSize, strokes, seen_call _ hr, seen_call _ hr, List.head?_append, inContext_append]
    have hh := ih.change (Sound.run as).issued hc
    cases hb : boundSize? n (initial.run as) (⟨c, r⟩ : Exchange α) <;> rw [hb] at hh <;> exact hh

/-! ## the history of a surface -/

/-- Every surface is as large as its window. -/
def Fitting (s : Canvas α) : Prop :=
  ∀ n t, s.surfaces.find? n = some t →
    ∃ v, s.windows[t.window]? = some v ∧ t.back.SameSize v.front

theorem Fitting.change {c : Call α} {r : c.Reply} (h : s.Fitting) (hi : Issued s)
    (hc : Change s c r s') : s'.Fitting := by
  cases hc with
  | @madeSurface w v ho hw hv =>
    intro n t hf
    rcases Table.find?_of_insert (hi.notMem (Nat.lt_add_one s.lastHandle)).2 hf with
      ⟨-, rfl⟩ | hold
    · exact ⟨v, hw, rfl, rfl⟩
    · exact h n t hold
  | @shown k u ho hu =>
    intro n t hf
    obtain ⟨v, hv, hsize⟩ := h n t hf
    show ∃ v', (s.windows.modify u.window fun w => ⟨u.back, w.frames + 1⟩)[t.window]? = some v' ∧ _
    by_cases hw : u.window = t.window
    · obtain ⟨v', hv', hsize'⟩ := h k u hu
      rw [hw, hv] at hv'
      cases hv'
      rw [hw, List.getElem?_modify_eq, hv]
      exact ⟨_, rfl, hsize.trans (Image.SameSize.symm hsize')⟩
    · rw [List.getElem?_modify_ne _ _ hw]
      exact ⟨v, hv, hsize⟩
  | endedSurface => exact fun n t hf => h n t (Table.find?_of_erase hf)
  | @drawn c b state hcur =>
    intro n t hf
    obtain ⟨old, hold, ⟨-, rfl⟩ | ⟨-, rfl⟩⟩ := Table.find?_of_modify s.surfaces
      (fun t => { t with back := state.paint c t.back }) hf
    · obtain ⟨v, hv, hsize⟩ := h n old hold
      exact ⟨v, hv, (state.sameSize_paint c old.back).trans hsize⟩
    · exact h n _ hold
  | _ => exact h

theorem Reachable.fitting (h : s.Reachable) : s.Fitting := by
  induction h with
  | initial => exact nofun
  | @window s width height _ ih =>
    intro n t hf
    obtain ⟨v, hv, hsize⟩ := ih n t hf
    have hlt : t.window < s.windows.length := (List.getElem?_eq_some_iff.mp hv).1
    exact ⟨v, (List.getElem?_append_left hlt).trans hv, hsize⟩
  | call c h ih =>
    obtain ⟨r, -, hc⟩ := change_step c _
    exact ih.change h.issued hc

/-- Of the surface `n`, after the strokes `ks` on it. -/
structure SurfaceHistory (n : SurfaceId) (ks : List (Stroke α)) (s : Canvas α) : Prop where
  back : ∀ t, s.surfaces.find? n = some t →
    t.back = painted (.black t.back.width t.back.height) ks
  unmade : s.lastHandle < n → ks = []

/-- Nothing happens to the surface, unless it is destroyed. -/
theorem SurfaceHistory.quiet (h : SurfaceHistory n ks s)
    (ht : ∀ t, s'.surfaces.find? n = some t → s.surfaces.find? n = some t)
    (hl : s.lastHandle ≤ s'.lastHandle) : SurfaceHistory n ks s' where
  back t hf := h.back t (ht t hf)
  unmade hn := h.unmade (Nat.lt_of_le_of_lt hl hn)

theorem SurfaceHistory.draw (h : SurfaceHistory n ks s) (b : Binding) (state : ContextState α)
    (hb : b.surface ≤ s.lastHandle) (c : DrawCall α) :
    SurfaceHistory n (ks ++ onSurface n [⟨b, state, c, replyOf (some state) c⟩])
      (s.drawOn b state c) := by
  by_cases hn : b.surface = n
  · have hon : onSurface n [⟨b, state, c, replyOf (some state) c⟩]
        = [(⟨b, state, c, replyOf (some state) c⟩ : Stroke α)] :=
      List.filter_cons_of_pos (decide_eq_true hn)
    rw [hon]
    refine ⟨fun t hf => ?_, fun hl => absurd hl (Nat.not_lt_of_le (hn ▸ hb))⟩
    obtain ⟨old, hold, ⟨-, rfl⟩ | ⟨hne, -⟩⟩ := Table.find?_of_modify s.surfaces
      (fun t => { t with back := state.paint c t.back }) hf
    case inr => exact absurd hn.symm hne
    obtain ⟨hw, hh⟩ := state.sameSize_paint c old.back
    show state.paint c old.back = painted (.black (state.paint c old.back).width
      (state.paint c old.back).height) _
    rw [painted_append, hw, hh, ← h.back old hold]
    rfl
  · have hon : onSurface n [(⟨b, state, c, replyOf (some state) c⟩ : Stroke α)] = [] :=
      List.filter_cons_of_neg (by simpa using hn)
    rw [hon, List.append_nil]
    refine h.quiet (fun t hf => ?_) (Nat.le_refl _)
    obtain ⟨old, hold, ⟨he, -⟩ | ⟨-, rfl⟩⟩ := Table.find?_of_modify s.surfaces
      (fun t => { t with back := state.paint c t.back }) hf
    · exact absurd he.symm hn
    · exact hold

theorem SurfaceHistory.change {c : Call α} {r : c.Reply} (h : SurfaceHistory n ks s)
    (hs : s.Sound) (hc : Change s c r s') :
    SurfaceHistory n (ks ++ onSurface n (s.stroke? ⟨c, r⟩).toList) s' := by
  have hquiet : ∀ {s'}, SurfaceHistory n ks s' → SurfaceHistory n (ks ++ onSurface n []) s' :=
    fun hh => (List.append_nil ks).symm ▸ hh
  cases hc with
  | refused hf hr ht =>
    rw [stroke?_of_failed s hr]
    exact hquiet (h.quiet (fun _ hf => hf) (Nat.le_refl _))
  | ignored c hn =>
    show SurfaceHistory n (ks ++ onSurface n (s.currentState?.map _).toList) s
    rw [hn]
    exact hquiet h
  | madeContext => exact hquiet (h.quiet (fun _ hf => hf) (Nat.le_succ _))
  | @madeSurface w v ho hw hv =>
    refine hquiet ⟨fun t hf => ?_, fun hn => h.unmade (Nat.lt_of_succ_lt hn)⟩
    have hnew := (hs.issued.notMem (Nat.lt_add_one s.lastHandle)).2
    rcases Table.find?_of_insert hnew hf with ⟨hn, rfl⟩ | hold
    · rw [h.unmade (hn ▸ Nat.lt_add_one s.lastHandle)]
      rfl
    · exact h.back t hold
  | endedSurface => exact hquiet (h.quiet (fun _ hf => Table.find?_of_erase hf) (Nat.le_refl _))
  | @drawn c b state hcur =>
    obtain ⟨hb, -⟩ := currentState?_eq_some.mp hcur
    obtain ⟨-, t, ht⟩ := hs.bound b hb
    rw [stroke?_draw hcur]
    exact h.draw b state (hs.issued.surfaces _ (Table.mem_keys_of_find? ht)) c
  | _ => exact hquiet (h.quiet (fun _ hf => hf) (Nat.le_refl _))

theorem surfaceHistory_initial (n : SurfaceId) : SurfaceHistory n [] (initial : Canvas α) :=
  ⟨nofun, fun _ => rfl⟩

theorem surfaceHistory_run (n : SurfaceId) (as : List (Action α)) :
    SurfaceHistory n (onSurface n (strokes .initial as)) (initial.run as) := by
  refine run_induction (P := fun as s => SurfaceHistory n (onSurface n (strokes .initial as)) s)
    (surfaceHistory_initial n) (fun as w v ih => ?_) (fun as c r s' hr hc ih => ?_) as
  · rw [strokes, seen_window]
    exact ih.quiet (fun _ hf => hf) (Nat.le_refl _)
  · rw [strokes, seen_call _ hr, onSurface_append]
    exact ih.change (Sound.run as) hc

end Canvas
end FireflyOverlay
