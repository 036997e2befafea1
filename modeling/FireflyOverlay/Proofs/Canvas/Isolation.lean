import FireflyOverlay.Proofs.Canvas.Histories

/-!
# Programs on one canvas do not disturb each other

Several programs share a canvas.  Each has a seat, a context and a surface; they take turns, and a
turn starts with binding the seat.

* `Turn`, `turnActions`, `script`   turns, what is done in them, and what one program draws in all of
                       its turns;
* `Canvas.run_turn`    a turn changes the state of its context and the image of its surface;
* `context_turns`, `replies_turns`, `surface_turns`   what a program ends up with: it depends on its
                       script, and on nothing that others do in between;
* `isolationLaws_run`  the laws of isolation, for every run.
-/

namespace FireflyOverlay

variable {α : Type}

namespace ContextState

/-- The state once the context is bound to a surface with the image `m`. -/
def boundTo (s : ContextState α) (m : Image) : ContextState α := s.defaultViewport m.width m.height

theorem boundTo_replay_boundTo (s : ContextState α) {m k : Image} (cs : List (DrawCall α)) :
    ((s.boundTo m).replay cs).boundTo k = (s.boundTo m).replay cs :=
  defaultViewport_of_isSome (isSome_viewport_replay rfl cs) k.width k.height

theorem boundTo_congr (s : ContextState α) {m k : Image} (h : m.SameSize k) :
    s.boundTo m = s.boundTo k := by
  rw [boundTo, h.1, h.2, boundTo]

variable [Scalar α] [Root α]

/-- The image after draw calls, each in the state that the ones before it leave. -/
def paintAll (s : ContextState α) : List (DrawCall α) → Image → Image
  | [], m => m
  | c :: cs, m => (s.apply c).paintAll cs (s.paint c m)

theorem paintAll_append (s : ContextState α) (cs ds : List (DrawCall α)) (m : Image) :
    s.paintAll (cs ++ ds) m = (s.replay cs).paintAll ds (s.paintAll cs m) := by
  induction cs generalizing s m with
  | nil => rfl
  | cons c cs ih => exact ih (s.apply c) (s.paint c m)

theorem sameSize_paintAll (s : ContextState α) (cs : List (DrawCall α)) (m : Image) :
    (s.paintAll cs m).SameSize m := by
  induction cs generalizing s m with
  | nil => exact .refl m
  | cons c cs ih => exact (ih (s.apply c) (s.paint c m)).trans (s.sameSize_paint c m)

end ContextState

/-! ## turns -/

variable {ι : Type}

structure Turn (ι α : Type) where
  who : ι
  calls : List (DrawCall α)

/-- What a program draws in all of its turns. -/
def script [DecidableEq ι] (i : ι) (ts : List (Turn ι α)) : List (DrawCall α) :=
  (ts.filter (·.who = i)).flatMap Turn.calls

theorem script_cons_self [DecidableEq ι] (t : Turn ι α) (ts : List (Turn ι α)) :
    script t.who (t :: ts) = t.calls ++ script t.who ts := by
  have hf : (t :: ts).filter (fun u => decide (u.who = t.who))
      = t :: ts.filter fun u => decide (u.who = t.who) :=
    List.filter_cons_of_pos (decide_eq_true rfl)
  rw [script, hf, List.flatMap_cons, script]

theorem script_cons_ne [DecidableEq ι] {i : ι} {t : Turn ι α} (h : t.who ≠ i)
    (ts : List (Turn ι α)) : script i (t :: ts) = script i ts := by
  rw [script, List.filter_cons_of_neg (by simpa using h), script]

namespace Canvas

def drawActions (cs : List (DrawCall α)) : List (Action α) := cs.map fun c => .call (.draw c)

/-- The seat is bound, and then drawn on. -/
def turnOn (b : Binding) (cs : List (DrawCall α)) : List (Action α) :=
  .call (.makeCurrent displayId (some b)) :: drawActions cs

def turnActions (seat : ι → Binding) (ts : List (Turn ι α)) : List (Action α) :=
  ts.flatMap fun t => turnOn (seat t.who) t.calls

variable [Scalar α] [Root α] {s : Canvas α} {b : Binding} {state : ContextState α} {t : CanvasSurface}

theorem step_draw (hb : s.current = some b) (hc : s.contexts.find? b.context = some state)
    (c : DrawCall α) :
    step (.draw c) s = (.withLogs (replyOf (some state) c) (state.notes c), s.drawOn b state c) := by
  show s.draw c = _
  simp only [draw, currentState?_eq_some.mpr ⟨hb, hc⟩]

theorem run_draws (hb : s.current = some b) (hc : s.contexts.find? b.context = some state)
    (cs : List (DrawCall α)) :
    s.run (drawActions cs) =
      { s with
        contexts := s.contexts.modify b.context (·.replay cs)
        surfaces := s.surfaces.modify b.surface fun t =>
          { t with back := state.paintAll cs t.back } } := by
  induction cs generalizing s state with
  | nil =>
    show s = { s with
      contexts := s.contexts.modify b.context fun state => state
      surfaces := s.surfaces.modify b.surface fun t => t }
    rw [Table.modify_id, Table.modify_id]
  | cons c cs ih =>
    have hc' : (s.drawOn b state c).contexts.find? b.context = some (state.apply c) :=
      Table.find?_modify_self hc (·.apply c)
    show (step (.draw c) s).2.run (drawActions cs) = _
    rw [step_draw hb hc, ih (s := s.drawOn b state c) hb hc']
    dsimp only [drawOn]
    rw [Table.modify_modify, Table.modify_modify]
    rfl

theorem strokes_draws (hb : s.current = some b) (hc : s.contexts.find? b.context = some state)
    (cs : List (DrawCall α)) :
    (strokes s (drawActions cs)).map Stroke.exchange = state.replies cs ∧
      ∀ k ∈ strokes s (drawActions cs), k.binding = b := by
  induction cs generalizing s state with
  | nil => exact ⟨rfl, fun _ hm => absurd hm List.not_mem_nil⟩
  | cons c cs ih =>
    have hc' : (s.drawOn b state c).contexts.find? b.context = some (state.apply c) :=
      Table.find?_modify_self hc (·.apply c)
    have hk : strokes s (drawActions (c :: cs))
        = ⟨b, state, c, replyOf (some state) c⟩
          :: strokes (s.drawOn b state c) (drawActions cs) := by
      have hr : (step (.draw c) s).1.reply = some (replyOf (some state) c) := by
        rw [step_draw hb hc]
        rfl
      show seen stroke? s (.call (.draw c) :: drawActions cs) = _
      rw [seen_cons_call _ hr, step_draw hb hc, stroke?_draw (currentState?_eq_some.mpr ⟨hb, hc⟩)]
      rfl
    obtain ⟨hreplies, hbinding⟩ := ih (s := s.drawOn b state c) hb hc'
    rw [hk]
    refine ⟨congrArg (_ :: ·) hreplies, fun k hm => ?_⟩
    rcases List.mem_cons.mp hm with rfl | hm
    · rfl
    · exact hbinding k hm

/-! ## one turn -/

theorem run_turn (ho : s.opened = true) (hc : s.contexts.find? b.context = some state)
    (ht : s.surfaces.find? b.surface = some t) (cs : List (DrawCall α)) :
    s.run (turnOn b cs) =
      { s with
        contexts := s.contexts.modify b.context fun state => (state.boundTo t.back).replay cs
        surfaces := s.surfaces.modify b.surface fun u =>
          { u with back := (state.boundTo t.back).paintAll cs u.back }
        current := some b } := by
  have hc' : (s.contexts.modify b.context (·.boundTo t.back)).find? b.context
      = some (state.boundTo t.back) := Table.find?_modify_self hc _
  show (step (.makeCurrent displayId (some b)) s).2.run (drawActions cs) = _
  rw [step_bind ho hc ht, run_draws rfl hc', Table.modify_modify]
  rfl

theorem context_turn (ho : s.opened = true) (hc : s.contexts.find? b.context = some state)
    (ht : s.surfaces.find? b.surface = some t) (cs : List (DrawCall α)) (n : ContextId) :
    (s.run (turnOn b cs)).contexts.find? n =
      if n = b.context then some ((state.boundTo t.back).replay cs) else s.contexts.find? n := by
  rw [run_turn ho hc ht]
  exact Table.find?_modify_some hc (fun state => (state.boundTo t.back).replay cs) n

theorem context_own (ho : s.opened = true) (hc : s.contexts.find? b.context = some state)
    (ht : s.surfaces.find? b.surface = some t) (cs : List (DrawCall α)) :
    (s.run (turnOn b cs)).contexts.find? b.context
      = some ((state.boundTo t.back).replay cs) := by
  rw [context_turn ho hc ht, if_pos rfl]

theorem surface_turn (ho : s.opened = true) (hc : s.contexts.find? b.context = some state)
    (ht : s.surfaces.find? b.surface = some t) (cs : List (DrawCall α)) (n : SurfaceId) :
    (s.run (turnOn b cs)).surfaces.find? n =
      if n = b.surface then some { t with back := (state.boundTo t.back).paintAll cs t.back }
      else s.surfaces.find? n := by
  rw [run_turn ho hc ht]
  exact Table.find?_modify_some ht
    (fun u => { u with back := (state.boundTo t.back).paintAll cs u.back }) n

theorem strokes_turn (ho : s.opened = true) (hc : s.contexts.find? b.context = some state)
    (ht : s.surfaces.find? b.surface = some t) (cs : List (DrawCall α)) :
    (strokes s (turnOn b cs)).map Stroke.exchange = (state.boundTo t.back).replies cs ∧
      ∀ k ∈ strokes s (turnOn b cs), k.binding = b := by
  have hc' : (s.contexts.modify b.context (·.boundTo t.back)).find? b.context
      = some (state.boundTo t.back) := Table.find?_modify_self hc _
  have hr : (step (.makeCurrent displayId (some b)) s).1.reply = some true := by
    rw [step_bind ho hc ht]
    rfl
  have hk : strokes s (turnOn b cs)
      = strokes (step (.makeCurrent displayId (some b)) s).2 (drawActions cs) :=
    seen_cons_call stroke? hr (drawActions cs)
  rw [hk, step_bind ho hc ht]
  exact strokes_draws rfl hc' cs

/-! ## any number of turns -/

/-- All seats are there. -/
structure Seats (s : Canvas α) (seat : ι → Binding) : Prop where
  opened : s.opened = true
  context : ∀ i, ∃ state, s.contexts.find? (seat i).context = some state
  surface : ∀ i, ∃ t, s.surfaces.find? (seat i).surface = some t

variable {seat : ι → Binding}

theorem run_turns (s : Canvas α) (seat : ι → Binding) (u : Turn ι α) (us : List (Turn ι α)) :
    s.run (turnActions seat (u :: us))
      = (s.run (turnOn (seat u.who) u.calls)).run (turnActions seat us) := by
  rw [turnActions, List.flatMap_cons, run_append, turnActions]

theorem strokes_turns (s : Canvas α) (seat : ι → Binding) (u : Turn ι α) (us : List (Turn ι α)) :
    strokes s (turnActions seat (u :: us)) = strokes s (turnOn (seat u.who) u.calls)
      ++ strokes (s.run (turnOn (seat u.who) u.calls)) (turnActions seat us) := by
  rw [turnActions, List.flatMap_cons, strokes, seen_append]
  rfl

theorem Seats.turn (h : s.Seats seat) (j : ι) (cs : List (DrawCall α)) :
    (s.run (turnOn (seat j) cs)).Seats seat := by
  obtain ⟨state, hc⟩ := h.context j
  obtain ⟨t, ht⟩ := h.surface j
  refine ⟨?_, fun i => ?_, fun i => ?_⟩
  · rw [run_turn h.opened hc ht]
    exact h.opened
  · rw [context_turn h.opened hc ht]
    split
    · exact ⟨_, rfl⟩
    · exact h.context i
  · rw [surface_turn h.opened hc ht]
    split
    · exact ⟨_, rfl⟩
    · exact h.surface i

/-- A turn leaves the size of every image. -/
theorem Seats.size_turn (h : s.Seats seat) (j : ι) (cs : List (DrawCall α)) {n : SurfaceId}
    (ht : s.surfaces.find? n = some t) :
    ∃ t', (s.run (turnOn (seat j) cs)).surfaces.find? n = some t' ∧ t'.back.SameSize t.back := by
  obtain ⟨state, hc⟩ := h.context j
  obtain ⟨u, hu⟩ := h.surface j
  rw [surface_turn h.opened hc hu]
  split
  · next hn =>
    rw [hn, hu] at ht
    cases ht
    exact ⟨_, rfl, (state.boundTo t.back).sameSize_paintAll cs t.back⟩
  · exact ⟨t, ht, .refl _⟩

theorem Seats.context_other (h : s.Seats seat) (j : ι) (cs : List (DrawCall α)) {n : ContextId}
    (hn : n ≠ (seat j).context) :
    (s.run (turnOn (seat j) cs)).contexts.find? n = s.contexts.find? n := by
  obtain ⟨state, hc⟩ := h.context j
  obtain ⟨u, hu⟩ := h.surface j
  rw [context_turn h.opened hc hu, if_neg hn]

variable [DecidableEq ι] {i : ι}

/-- The context of a program after its turns: what its script makes of the state, with the viewport
given by the first turn. -/
theorem context_turns (h : s.Seats seat) (hi : ∀ j, j ≠ i → (seat i).context ≠ (seat j).context)
    (hc : s.contexts.find? (seat i).context = some state)
    (ht : s.surfaces.find? (seat i).surface = some t) (us : List (Turn ι α)) :
    (s.run (turnActions seat us)).contexts.find? (seat i).context
      = some ((if i ∈ us.map Turn.who then state.boundTo t.back else state).replay
          (script i us)) := by
  induction us generalizing s state t with
  | nil => exact hc
  | cons u us ih =>
    obtain ⟨t', ht', hsize⟩ := h.size_turn u.who u.calls ht
    rw [run_turns]
    by_cases hu : u.who = i
    · subst hu
      have hc' := context_own h.opened hc ht u.calls
      rw [ih (h.turn u.who u.calls) hc' ht', script_cons_self, ContextState.replay_append,
        ContextState.boundTo_replay_boundTo, ite_self, List.map_cons, if_pos List.mem_cons_self]
    · have hc' := (h.context_other u.who u.calls (hi u.who hu)).trans hc
      have hm : i ∈ (u :: us).map Turn.who ↔ i ∈ us.map Turn.who := by
        rw [List.map_cons, List.mem_cons]
        exact or_iff_right (Ne.symm hu)
      rw [ih (h.turn u.who u.calls) hc' ht', script_cons_ne hu, state.boundTo_congr hsize]
      simp only [hm]

/-- The answers to a program. -/
theorem replies_turns (h : s.Seats seat) (hi : ∀ j, j ≠ i → (seat i).context ≠ (seat j).context)
    (hc : s.contexts.find? (seat i).context = some state)
    (ht : s.surfaces.find? (seat i).surface = some t) (us : List (Turn ι α)) :
    (inContext (seat i).context (strokes s (turnActions seat us))).map Stroke.exchange
      = (state.boundTo t.back).replies (script i us) := by
  induction us generalizing s state t with
  | nil => rfl
  | cons u us ih =>
    obtain ⟨t', ht', hsize⟩ := h.size_turn u.who u.calls ht
    rw [strokes_turns, inContext_append, List.map_append]
    by_cases hu : u.who = i
    · subst hu
      have hc' := context_own h.opened hc ht u.calls
      obtain ⟨hreplies, hbinding⟩ := strokes_turn h.opened hc ht u.calls
      have hall : inContext (seat u.who).context (strokes s (turnOn (seat u.who) u.calls))
          = strokes s (turnOn (seat u.who) u.calls) :=
        List.filter_eq_self.mpr fun k hk => decide_eq_true (by rw [hbinding k hk])
      rw [hall, hreplies, ih (h.turn u.who u.calls) hc' ht', script_cons_self,
        ContextState.replies_append, ContextState.boundTo_replay_boundTo]
    · have hc' := (h.context_other u.who u.calls (hi u.who hu)).trans hc
      obtain ⟨other, ho⟩ := h.context u.who
      obtain ⟨v, hv⟩ := h.surface u.who
      obtain ⟨-, hbinding⟩ := strokes_turn h.opened ho hv u.calls
      have hnone : inContext (seat i).context (strokes s (turnOn (seat u.who) u.calls)) = [] :=
        List.filter_eq_nil_iff.mpr fun k hk => by
          rw [hbinding k hk]
          simpa using (hi u.who hu).symm
      rw [hnone, ih (h.turn u.who u.calls) hc' ht', script_cons_ne hu,
        state.boundTo_congr hsize]
      rfl

/-- The surface of a program after its turns. -/
theorem surface_turns (h : s.Seats seat) (hi : ∀ j, j ≠ i → (seat i).context ≠ (seat j).context)
    (hn : ∀ j, j ≠ i → (seat i).surface ≠ (seat j).surface)
    (hc : s.contexts.find? (seat i).context = some state)
    (ht : s.surfaces.find? (seat i).surface = some t) (us : List (Turn ι α)) :
    (s.run (turnActions seat us)).surfaces.find? (seat i).surface
      = some { t with back := (state.boundTo t.back).paintAll (script i us) t.back } := by
  induction us generalizing s state t with
  | nil => exact ht
  | cons u us ih =>
    rw [run_turns]
    by_cases hu : u.who = i
    · subst hu
      have hc' := context_own h.opened hc ht u.calls
      have ht' : (s.run (turnOn (seat u.who) u.calls)).surfaces.find? (seat u.who).surface
          = some { t with back := (state.boundTo t.back).paintAll u.calls t.back } := by
        rw [surface_turn h.opened hc ht, if_pos rfl]
      rw [ih (h.turn u.who u.calls) hc' ht', script_cons_self, ContextState.paintAll_append,
        ContextState.boundTo_replay_boundTo]
    · have hc' := (h.context_other u.who u.calls (hi u.who hu)).trans hc
      obtain ⟨other, ho⟩ := h.context u.who
      obtain ⟨v, hv⟩ := h.surface u.who
      have ht' : (s.run (turnOn (seat u.who) u.calls)).surfaces.find? (seat i).surface
          = some t := by
        rw [surface_turn h.opened ho hv, if_neg (hn u.who hu), ht]
      rw [ih (h.turn u.who u.calls) hc' ht', script_cons_ne hu]

/-! ## the laws -/

/-- Of a run of a fresh canvas. -/
structure IsolationLaws (as : List (Action α)) : Prop where
  /-- the state and the answers come from the draw calls in this context only -/
  context : ∀ n state, (initial.run as).contexts.find? n = some state →
    state = (ContextState.fresh (firstSize n .initial as)).replay
        ((inContext n (strokes .initial as)).map Stroke.call) ∧
      (inContext n (strokes .initial as)).map Stroke.exchange
        = (ContextState.fresh (firstSize n .initial as)).replies
          ((inContext n (strokes .initial as)).map Stroke.call)
  /-- the image comes from the painting calls on this surface only -/
  surface : ∀ n t, (initial.run as).surfaces.find? n = some t →
    ∃ v, (initial.run as).windows[t.window]? = some v ∧
      t.back = painted (.black v.front.width v.front.height)
        ((onSurface n (strokes .initial as)).filter (·.call.paints))
  unbound : (initial.run as).current = none →
    ∀ c, (step (.draw c) (initial.run as)).2 = initial.run as
  /-- however programs take turns afterwards, one that shares its context with no other ends up with
  the same state and the same answers, and with the same image if it does not share its surface -/
  turns : ∀ {ι : Type} [DecidableEq ι] (seat : ι → Binding) (us us' : List (Turn ι α)),
    (∀ i, (initial.run as).live .context (seat i).context = true ∧
      (initial.run as).live .surface (seat i).surface = true) →
    ∀ i, (∀ j, j ≠ i → (seat i).context ≠ (seat j).context) →
      script i us = script i us' → (i ∈ us.map Turn.who ↔ i ∈ us'.map Turn.who) →
      (run (initial.run as) (turnActions seat us)).contexts.find? (seat i).context
        = (run (initial.run as) (turnActions seat us')).contexts.find? (seat i).context ∧
      (inContext (seat i).context (strokes (initial.run as) (turnActions seat us))).map
          Stroke.exchange
        = (inContext (seat i).context (strokes (initial.run as) (turnActions seat us'))).map
          Stroke.exchange ∧
      ((∀ j, j ≠ i → (seat i).surface ≠ (seat j).surface) →
        (run (initial.run as) (turnActions seat us)).surfaces.find? (seat i).surface
          = (run (initial.run as) (turnActions seat us')).surfaces.find? (seat i).surface)

omit [DecidableEq ι] in
theorem isolationLaws_run (as : List (Action α)) : IsolationLaws as where
  context n state hf := (contextHistory_run n as).state state hf
  surface n t hf := by
    obtain ⟨v, hv, hw, hh⟩ := (Reachable.initial.run as).fitting n t hf
    refine ⟨v, hv, ?_⟩
    rw [painted_filter, ← hw, ← hh]
    exact (surfaceHistory_run n as).back t hf
  unbound h c := draw_unbound h c
  turns seat us us' hlive i hi hscript hwho := by
    have hs : (initial.run as : Canvas α).Sound := Sound.run as
    have hc : ∀ j, ∃ state, (initial.run as).contexts.find? (seat j).context = some state :=
      fun j => Table.contains_iff.mp (hlive j).1
    have ht : ∀ j, ∃ t, (initial.run as).surfaces.find? (seat j).surface = some t :=
      fun j => Table.contains_iff.mp (hlive j).2
    obtain ⟨state, hstate⟩ := hc i
    obtain ⟨t, hsurface⟩ := ht i
    have h : (initial.run as).Seats seat :=
      ⟨hs.opened _ (Table.mem_keys_of_find? hstate), hc, ht⟩
    refine ⟨?_, ?_, fun hn => ?_⟩
    · rw [context_turns h hi hstate hsurface, context_turns h hi hstate hsurface, hscript]
      simp only [hwho]
    · rw [replies_turns h hi hstate hsurface, replies_turns h hi hstate hsurface, hscript]
    · rw [surface_turns h hi hn hstate hsurface, surface_turns h hi hn hstate hsurface, hscript]

end Canvas
end FireflyOverlay
