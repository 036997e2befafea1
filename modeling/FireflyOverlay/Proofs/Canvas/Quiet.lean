import FireflyOverlay.Canvas.Checked
import FireflyOverlay.Proofs.Canvas.Isolation
import FireflyOverlay.Proofs.Play

/-!
# Quiet calls

On a checked canvas only the calls that paint can crash.  Those that merely set something go through
on every canvas, and what they answer and log does not tell what was set before.

* `DrawCall.Quiet`      such a call;
* `CheckedCanvas.step_quiet`   on a checked canvas it does what it does on any other;
* `outcome_quiet_all`   quiet calls on two canvases: the sessions that they lead to differ in the
                        canvases, and in nothing else.
-/

namespace FireflyOverlay

variable {α : Type} [Scalar α] [Root α]

/-- The call reaches for no pixel, logs nothing, and has the same answer in any state. -/
def DrawCall.Quiet (c : DrawCall α) : Prop :=
  ∀ (state state' : ContextState α) (m : Image), state.reached c m = [] ∧ state.notes c = [] ∧
    Canvas.replyOf (some state) c = Canvas.replyOf (some state') c

open Play Canvas

variable {s s' : Canvas α} {b : Binding} {state state' : ContextState α}

theorem CheckedCanvas.step_quiet {c : DrawCall α} (hq : c.Quiet) (hb : s.current = some b)
    (hc : s.contexts.find? b.context = some state) :
    CheckedCanvas.step (.draw c) ⟨s⟩ =
      (.withLogs (replyOf (some state) c) [], ⟨s.drawOn b state c⟩) := by
  have hover : s.overruns (.draw c) = false := by
    simp only [overruns, currentState?_eq_some.mpr ⟨hb, hc⟩, ContextState.overruns,
      (hq state state _).1, List.any_nil]
    cases s.surfaces.find? b.surface <;> rfl
  have hnotes : state.notes c = [] := (hq state state (.black 0 0)).2.1
  unfold CheckedCanvas.step
  rw [if_neg (by rw [hover]; exact nofun), step_draw hb hc, hnotes]

/-- The session on another display. -/
def Session.on {σ : Type} (a : Session α σ) (display : σ) : Session α σ := { a with display }

theorem outcome_quiet {c : DrawCall α} (hq : c.Quiet) (a : Session α (CheckedCanvas α))
    (hb : s.current = some b) (hc : s.contexts.find? b.context = some state) :
    (performDraw c).outcome (a.on ⟨s⟩) = (.ok (replyOf (some state) c),
      (a.record (.call (.draw c) (some (replyOf (some state) c)))).on ⟨s.drawOn b state c⟩) := by
  have hstep : Display.step (.draw c) (a.on ⟨s⟩).display =
      (.withLogs (replyOf (some state) c) [], ⟨s.drawOn b state c⟩) :=
    CheckedCanvas.step_quiet hq hb hc
  have hreply : (Display.step (.draw c) (a.on ⟨s⟩).display).1.reply =
      some (replyOf (some state) c) := by rw [hstep]; rfl
  have hafter : (a.on ⟨s⟩).afterCall (.draw c) =
      (a.record (.call (.draw c) (some (replyOf (some state) c)))).on ⟨s.drawOn b state c⟩ := by
    have hlogs : ∀ t : Session α (CheckedCanvas α), (t.recordLogs []).receive .none = t := by
      intro t
      show ({ t with trace := t.trace ++ #[] } : Session α (CheckedCanvas α)) = t
      rw [Array.append_empty]
    unfold Session.afterCall Session.answered
    rw [hstep]
    exact hlogs _
  rw [performDraw, outcome_perform_some hreply, hafter]

section
variable {σ : Type} [Display α σ] {a a' : Session α σ}

omit [Scalar α] [Root α] in
theorem outcome_performAll_cons {c : DrawCall α} {cs : List (DrawCall α)} {v : c.Reply}
    (h : (performDraw c).outcome a = (.ok v, a')) :
    (performAll (c :: cs)).outcome a = (performAll cs).outcome a' := by
  show (do let _ ← performDraw c; performAll cs : Play α σ Unit).outcome a = _
  rw [outcome_bind, h]

omit [Scalar α] [Root α] in
theorem outcome_performAll_append {cs : List (DrawCall α)}
    (h : (performAll cs).outcome a = (.ok (), a')) (ds : List (DrawCall α)) :
    (performAll (cs ++ ds)).outcome a = (performAll ds).outcome a' := by
  induction cs generalizing a with
  | nil => exact congrArg (performAll ds).outcome (Prod.mk.inj h).2
  | cons c cs ih =>
    rcases hc : (performDraw c).outcome a with ⟨e | v, s'⟩
    · have hfirst : (performAll (c :: cs)).outcome a = (.error e, s') := by
        show (do let _ ← performDraw c; performAll cs : Play α σ Unit).outcome a = _
        rw [outcome_bind, hc]
      rw [hfirst] at h
      cases (Prod.mk.inj h).1
    · rw [outcome_performAll_cons hc] at h
      exact (outcome_performAll_cons hc).trans (ih h)

end

/-- Quiet calls go through on two canvases, and leave the same trace. -/
theorem outcome_quiet_all {cs : List (DrawCall α)} (hq : ∀ c ∈ cs, c.Quiet)
    (a : Session α (CheckedCanvas α)) (hb : s.current = some b)
    (hc : s.contexts.find? b.context = some state) (hb' : s'.current = some b)
    (hc' : s'.contexts.find? b.context = some state') :
    ∃ a' : Session α (CheckedCanvas α),
      (performAll cs).outcome (a.on ⟨s⟩) = (.ok (), a'.on ⟨s.run (drawActions cs)⟩) ∧
      (performAll cs).outcome (a.on ⟨s'⟩) = (.ok (), a'.on ⟨s'.run (drawActions cs)⟩) := by
  induction cs generalizing a s s' state state' with
  | nil => exact ⟨a, rfl, rfl⟩
  | cons c cs ih =>
    obtain ⟨hcq, hcs⟩ := List.forall_mem_cons.mp hq
    have hone := outcome_quiet hcq a hb hc
    have hone' := outcome_quiet hcq a hb' hc'
    rw [(hcq state' state (.black 0 0)).2.2] at hone'
    have hb₁ : (s.drawOn b state c).current = some b := hb
    have hb₁' : (s'.drawOn b state' c).current = some b := hb'
    obtain ⟨a', h, h'⟩ := ih hcs (a.record (.call (.draw c) (some (replyOf (some state) c))))
      hb₁ (Table.find?_modify_self hc (·.apply c)) hb₁' (Table.find?_modify_self hc' (·.apply c))
    have hrun : s.run (drawActions (c :: cs)) = (s.drawOn b state c).run (drawActions cs) := by
      show (step (.draw c) s).2.run (drawActions cs) = _
      rw [step_draw hb hc]
    have hrun' : s'.run (drawActions (c :: cs)) = (s'.drawOn b state' c).run (drawActions cs) := by
      show (step (.draw c) s').2.run (drawActions cs) = _
      rw [step_draw hb' hc']
    refine ⟨a', ?_, ?_⟩
    · rw [outcome_performAll_cons hone, hrun, h]
    · rw [outcome_performAll_cons hone', hrun', h']

end FireflyOverlay
