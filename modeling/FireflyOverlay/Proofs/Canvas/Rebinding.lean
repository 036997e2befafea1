import FireflyOverlay.Proofs.Canvas.Codes
import FireflyOverlay.Proofs.Canvas.Holders
import FireflyOverlay.Scalar.Single

/-!
# Binding again on a canvas

`ensureCurrent` binds the surface and the context of a lease again where something else is current.
On a canvas it succeeds exactly where both are live, and changes nothing but what the binding needs.

* `Canvas.Rebinding`     the four ways in which `ensureCurrent` may end: nothing to do, bound again,
                         no context, no surface;
* `Canvas.live_release`  a release takes what the lease holds, and nothing else;
* `Canvas.rebindingLaws`   the laws of binding again, for every reachable canvas.
-/

namespace FireflyOverlay

namespace Canvas

variable {α : Type} {c c' : Canvas α} {b : Binding}

/-! ## how it ends -/

/-- How `ensureCurrent` may end on the canvas `c` for the binding `b`. -/
inductive Rebinding (c : Canvas α) (b : Binding) : Except DisplayError Unit → Canvas α → Prop
  | kept (h : c.current = some b) : Rebinding c b (.ok ()) c
  | rebound {state t} (h : c.current ≠ some b) (hc : c.contexts.find? b.context = some state)
    (ht : c.surfaces.find? b.surface = some t) :
    Rebinding c b (.ok ())
      { c with
        contexts := c.contexts.modify b.context (·.defaultViewport t.back.width t.back.height)
        current := some b }
  | noContext (h : c.current ≠ some b) (hc : c.live .context b.context = false) :
    Rebinding c b (.error (.contextLost .badContext)) { c with lastError := .success }
  | noSurface (h : c.current ≠ some b) (hc : c.live .context b.context = true)
    (ht : c.live .surface b.surface = false) :
    Rebinding c b (.error (.contextLost .badSurface)) { c with lastError := .success }

namespace Rebinding

variable {r : Except DisplayError Unit}

theorem opened (h : Rebinding c b r c') (ho : c.opened = true) : c'.opened = true := by
  cases h <;> exact ho

theorem eq_of_current (h : Rebinding c b r c') (hb : c.current = some b) : r = .ok () ∧ c' = c := by
  cases h with
  | kept => exact ⟨rfl, rfl⟩
  | rebound hn | noContext hn | noSurface hn => exact absurd hb hn

theorem bound (h : Rebinding c b r c') (hr : r = .ok ()) : c'.current = some b := by
  cases h with
  | kept hb => exact hb
  | rebound => rfl
  | noContext | noSurface => cases hr

/-- What is current is live, so the handles are only looked at where something else is current. -/
theorem ok_iff (h : Rebinding c b r c') (hs : c.Sound) :
    r = .ok () ↔ c.live .context b.context = true ∧ c.live .surface b.surface = true := by
  cases h with
  | kept hb =>
    obtain ⟨⟨_, hc⟩, _, ht⟩ := hs.bound b hb
    exact iff_of_true rfl ⟨Table.contains_of_some hc, Table.contains_of_some ht⟩
  | rebound _ hc ht =>
    exact iff_of_true rfl ⟨Table.contains_of_some hc, Table.contains_of_some ht⟩
  | noContext _ hc => simp [hc]
  | noSurface _ _ ht => simp [ht]

theorem eq_of_ok (h : Rebinding c b r c') (hr : r = .ok ()) (hb : c.current ≠ some b) :
    ∃ state t, c.contexts.find? b.context = some state ∧ c.surfaces.find? b.surface = some t ∧
      c' = { c with
        contexts := c.contexts.modify b.context (·.defaultViewport t.back.width t.back.height)
        current := some b } := by
  cases h with
  | kept hcur => exact absurd hcur hb
  | rebound _ hc ht => exact ⟨_, _, hc, ht, rfl⟩
  | noContext | noSurface => cases hr

theorem eq_of_lost (h : Rebinding c b r c') (hr : r ≠ .ok ()) :
    c' = { c with lastError := .success } ∧ r = .error (.contextLost
      (if c.live .context b.context then .badSurface else .badContext)) := by
  cases h with
  | kept | rebound => exact absurd rfl hr
  | noContext _ hc => exact ⟨rfl, by rw [hc]; rfl⟩
  | noSurface _ hc => exact ⟨rfl, by rw [hc]; rfl⟩

end Rebinding

variable [Scalar α] [Root α]

theorem replays_asked {xs : List (Exchange α)} {r : Bool} (ha : Asked b xs r)
    (hr : Replays c xs c') : c' = c ∧ (r = true ↔ c.current = some b) := by
  have hc : ∀ {v : Option ContextId} {ys : List (Exchange α)},
      Replays c (⟨.currentContext, v⟩ :: ys) c' →
      v = c.current.map (·.context) ∧ Replays c ys c' := fun h => h.answer rfl
  have hs : ∀ {v : Option SurfaceId} {ys : List (Exchange α)},
      Replays c (⟨.currentSurface, v⟩ :: ys) c' →
      v = c.current.map (·.surface) ∧ Replays c ys c' := fun h => h.answer rfl
  cases ha with
  | current =>
    obtain ⟨h1, hr⟩ := hc hr
    obtain ⟨h2, hr⟩ := hs hr
    refine ⟨hr, fun _ => ?_, fun _ => rfl⟩
    cases hcur : c.current with
    | none => rw [hcur] at h1; cases h1
    | some b' =>
      rw [hcur] at h1 h2
      obtain ⟨bs, bc⟩ := b
      cases h1
      cases h2
      rfl
  | otherContext v hn =>
    obtain ⟨h1, hr⟩ := hc hr
    exact ⟨hr, nofun, fun hcur => absurd (h1.trans (congrArg _ hcur)) hn⟩
  | otherSurface v hn =>
    obtain ⟨h2, hr⟩ := hs (hc hr).2
    exact ⟨hr, nofun, fun hcur => absurd (h2.trans (congrArg _ hcur)) hn⟩

/-! ## binding again -/

/-- Where something else is current, the binding is granted or refused.  The context is looked up
first. -/
theorem bind_cases (ho : c.opened = true) (hne : c.current ≠ some b) :
    (∃ c', step (.makeCurrent displayId (some b)) c = (.answer true, c') ∧
        Rebinding c b (.ok ()) c') ∨
      ∃ code, step (.makeCurrent displayId (some b)) c = c.refuse false code ∧
        Rebinding c b (.error (.contextLost code)) { c with lastError := .success } := by
  have hstep : step (.makeCurrent displayId (some b)) c = c.bind b := by
    show c.makeCurrent displayId (some b) = _
    rw [makeCurrent, withDisplay_open ho]
  cases hc : c.contexts.contains b.context with
  | false =>
    refine .inr ⟨.badContext, ?_, .noContext hne hc⟩
    rw [hstep]
    simp [bind, hc]
  | true =>
    cases ht : c.surfaces.contains b.surface with
    | false =>
      refine .inr ⟨.badSurface, ?_, .noSurface hne hc ht⟩
      rw [hstep]
      simp [bind, hc, Table.find?_of_not_contains ht]
    | true =>
      obtain ⟨state, hc⟩ := Table.contains_iff.mp hc
      obtain ⟨t, ht⟩ := Table.contains_iff.mp ht
      exact .inl ⟨_, step_bind ho hc ht, .rebound hne hc ht⟩

theorem rebinding_of_ensured (ho : c.opened = true) {xs : List (Exchange α)}
    {r : Except DisplayError Unit} (he : Ensured displayId b xs r) (hr : Replays c xs c') :
    Rebinding c b r c' := by
  have hasked : ∀ {ys zs : List (Exchange α)}, Asked b ys false → Replays c (ys ++ zs) c' →
      c.current ≠ some b ∧ Replays c zs c' := by
    intro ys zs ha hr
    obtain ⟨c₁, h₁, h₂⟩ := replays_append.mp hr
    obtain ⟨hc₁, hcur⟩ := replays_asked ha h₁
    exact ⟨fun h => (nomatch hcur.mpr h), hc₁ ▸ h₂⟩
  cases he with
  | current ha =>
    obtain ⟨rfl, hcur⟩ := replays_asked ha hr
    exact .kept (hcur.mp rfl)
  | rebound ha =>
    obtain ⟨hne, hr⟩ := hasked ha hr
    rcases bind_cases ho hne with ⟨c₁, hstep, h⟩ | ⟨code, hstep, -⟩
    · obtain ⟨-, rfl⟩ := hr.answer hstep
      exact h
    · cases (hr.answer hstep).1
  | lost ha code =>
    obtain ⟨hne, hr⟩ := hasked ha hr
    rcases bind_cases ho hne with ⟨c₁, hstep, -⟩ | ⟨code', hstep, h⟩
    · cases (hr.answer hstep).1
    · have htold := (hr.answer hstep).2
      obtain ⟨rfl, rfl⟩ := htold.answer rfl
      exact h

theorem rebinding {s : Session α (Canvas α)} (hb : s.lease.bound? = some (displayId, b))
    (ho : s.display.opened = true) :
    ∃ r, (ensureCurrent.outcome s).1 = .ok r ∧ (ensureCurrent.outcome s).2.lease = s.lease ∧
      Rebinding s.display b r (ensureCurrent.outcome s).2.display := by
  obtain ⟨r, es, hr, -, hplay, hlease, he⟩ := replays_of_returns (returns_ensureCurrent s)
  rw [hb] at he
  exact ⟨r, hr, hlease, rebinding_of_ensured ho he.2 hplay⟩

/-! ## releasing -/

/-- The call for the end of a handle. -/
def endCall : HandleKind → Nat → Call α
  | .context, n => .destroyContext displayId n
  | .surface, n => .destroySurface displayId n

/-- The handle is not live after the call for its end, and every other one is as it was. -/
theorem live_step_end (ho : c.opened = true) (kind kind' : HandleKind) (m n : Nat) :
    (step (endCall kind m) c).2.live kind' n = true ↔
      c.live kind' n = true ∧ ¬ (kind' = kind ∧ n = m) := by
  by_cases hn : kind' = kind ∧ n = m
  · obtain ⟨rfl, rfl⟩ := hn
    have hdead : (step (endCall kind' n) c).2.live kind' n = false := by
      cases kind' with
      | context =>
        show (c.destroyContext displayId n).2.live .context n = false
        rw [destroyContext, withDisplay_open ho]
        cases hc : c.contexts.contains n <;> simp [live, refuse, hc, Table.contains_erase]
      | surface =>
        show (c.destroySurface displayId n).2.live .surface n = false
        rw [destroySurface, withDisplay_open ho]
        cases ht : c.surfaces.contains n <;> simp [live, refuse, ht, Table.contains_erase]
    simp [hdead]
  · obtain ⟨r, -, hc⟩ := change_step (endCall kind m) c
    have hm : kind'.makes (endCall kind m : Call α) = false := by
      cases kind <;> cases kind' <;> rfl
    have he : kind'.ends? (endCall kind m : Call α) ≠ some n := by
      intro he
      cases kind <;> cases kind' <;> cases he <;> exact hn ⟨rfl, rfl⟩
    rw [hc.live_eq hm he]
    simp [hn]

/-- A call that is tried does what it does, and the question for the code changes no handle. -/
theorem live_of_tried {x : Bool → Exchange α} {call : Call α} {xs : List (Exchange α)}
    (hx : ∀ done, (x done).call = call) (ht : Tried x xs) (hr : Replays c xs c') :
    c'.opened = (step call c).2.opened ∧
      ∀ kind n, c'.live kind n = (step call c).2.live kind n := by
  cases ht with
  | done =>
    have hc : c' = (step (x true).call c).2 := hr.2
    rw [hc, hx true]
    exact ⟨rfl, fun _ _ => rfl⟩
  | refused code =>
    have hc : c' = { (step (x false).call c).2 with lastError := .success } := hr.2.2
    rw [hc, hx false]
    exact ⟨rfl, fun kind _ => by cases kind <;> rfl⟩

theorem live_of_givenUp (kind kind' : HandleKind) (n : Nat) {held : Option Nat}
    {x : Nat → Bool → Exchange α} {xs : List (Exchange α)} (ho : c.opened = true)
    (hx : ∀ m done, (x m done).call = endCall kind m) (hg : GivenUp held x xs)
    (hr : Replays c xs c') : c'.opened = true ∧
      (c'.live kind' n = true ↔ c.live kind' n = true ∧ ¬ (kind' = kind ∧ held = some n)) := by
  cases held with
  | none =>
    obtain rfl : xs = [] := hg
    rw [show c' = c from hr]
    exact ⟨ho, by simp⟩
  | some m =>
    obtain ⟨ho', hl⟩ := live_of_tried (hx m) hg hr
    obtain ⟨r, -, hc⟩ := change_step (endCall kind m) c
    rw [ho', hl, live_step_end ho]
    exact ⟨hc.opened_of ho, by rw [Option.some.injEq, @eq_comm _ m n]⟩

/-- **A release on a canvas** takes what the lease holds, and nothing else. -/
theorem live_release {s : Session α (Canvas α)} (hd : s.lease.display = some displayId)
    (ho : s.display.opened = true) :
    (release.outcome s).1 = .ok () ∧ (release.outcome s).2.lease = .empty ∧
      ∀ kind n, ((release.outcome s).2.display.live kind n = true ↔
        s.display.live kind n = true ∧ kind.held s.lease ≠ some n) := by
  obtain ⟨r, es, hr, -, hplay, hreleased, hlease⟩ := replays_of_returns (returns_release s)
  refine ⟨hr, by rw [hlease, Lease.released, hd]; rfl, fun kind n => ?_⟩
  unfold Released at hreleased
  rw [hd] at hreleased
  obtain ⟨us, cs, ts, hes, hu, hc, ht⟩ := hreleased
  rw [hes] at hplay
  obtain ⟨c₂, hplay, h₃⟩ := replays_append.mp hplay
  obtain ⟨c₁, h₁, h₂⟩ := replays_append.mp hplay
  have hunbind : ∀ done : Bool, (⟨.makeCurrent displayId none, done⟩ : Exchange α).call
      = .makeCurrent displayId none := fun _ => rfl
  obtain ⟨ho₁, hl₁⟩ := live_of_tried hunbind hu h₁
  rw [step_unbind ho] at ho₁ hl₁
  obtain ⟨ho₂, hl₂⟩ :=
    live_of_givenUp .context kind n (ho₁.trans ho) (fun _ _ => rfl) hc h₂
  obtain ⟨-, hl₃⟩ := live_of_givenUp .surface kind n ho₂ (fun _ _ => rfl) ht h₃
  rw [hl₃, hl₂, hl₁]
  cases kind <;> simp [HandleKind.held, live]

/-! ## the laws -/

/-- Of `ensureCurrent` from `s` for the binding `b`, which answers `r` and leaves `s'`. -/
structure RebindingLaws (s : Session α (Canvas α)) (b : Binding) (r : Except DisplayError Unit)
    (s' : Session α (Canvas α)) : Prop where
  /-- it succeeds exactly where the context and the surface are live -/
  ok_iff : r = .ok () ↔
    s.display.live .context b.context = true ∧ s.display.live .surface b.surface = true
  bound : r = .ok () → s'.display.current = some b
  /-- where the binding was current already, nothing changes -/
  kept : s.display.current = some b → r = .ok () ∧ s'.display = s.display
  /-- a viewport that was set stays, and another context or surface is not touched -/
  rebound : r = .ok () → s.display.current ≠ some b → ∃ state t,
    s.display.contexts.find? b.context = some state ∧
    s.display.surfaces.find? b.surface = some t ∧
    s'.display = { s.display with
      contexts := s.display.contexts.modify b.context fun k =>
        { k with viewport := some (k.viewport.getD (t.back.width, t.back.height)) }
      current := some b }
  /-- a failure tells what is gone; it changes nothing, and takes the code away -/
  lost : r ≠ .ok () → s'.display = { s.display with lastError := .success } ∧
    r = .error (.contextLost
      (if s.display.live .context b.context then .badSurface else .badContext))
  lease : s'.lease = s.lease
  /-- whatever happens to the canvas before it, a release takes what is left -/
  released : ∀ (as : List (Action α)) (t : Session α (Canvas α)),
    t = { s' with display := s'.display.run as } →
      (release.outcome t).1 = .ok () ∧ (release.outcome t).2.lease = .empty ∧
        ∀ kind n, ((release.outcome t).2.display.live kind n = true ↔
          t.display.live kind n = true ∧ kind.held s.lease ≠ some n)
  /-- a second call right after a success changes nothing -/
  again : r = .ok () → (ensureCurrent.outcome s').1 = .ok (.ok ()) ∧
    (ensureCurrent.outcome s').2.display = s'.display ∧
    (ensureCurrent.outcome s').2.lease = s'.lease

theorem opened_run (ho : c.opened = true) (as : List (Action α)) : (c.run as).opened = true :=
  run_induction (P := fun _ c => c.opened = true) ho (fun _ _ _ h => h)
    (fun _ _ _ _ _ hc h => hc.opened_of h) as

theorem display_of_bound? {l : Lease} {d : DisplayId} (h : l.bound? = some (d, b)) :
    l.display = some d := by
  obtain ⟨d', hd, h⟩ := Option.bind_eq_some_iff.mp h
  obtain ⟨_, -, h⟩ := Option.bind_eq_some_iff.mp h
  obtain ⟨_, -, h⟩ := Option.bind_eq_some_iff.mp h
  cases h
  exact hd

/-- **Binding again** on a canvas, whatever was drawn, bound and destroyed there before. -/
theorem rebindingLaws {s : Session α (Canvas α)} (h : s.display.Reachable)
    (ho : s.display.opened = true) (hb : s.lease.bound? = some (displayId, b)) :
    ∃ r, (ensureCurrent.outcome s).1 = .ok r ∧
      RebindingLaws s b r (ensureCurrent.outcome s).2 := by
  obtain ⟨r, hr, hlease, hstep⟩ := rebinding hb ho
  refine ⟨r, hr, hstep.ok_iff h.sound, hstep.bound, hstep.eq_of_current, hstep.eq_of_ok,
    hstep.eq_of_lost, hlease, ?_, ?_⟩
  · rintro as t rfl
    rw [← hlease]
    exact live_release (by rw [hlease]; exact display_of_bound? hb)
      (opened_run (hstep.opened ho) as)
  · intro hok
    obtain ⟨r', hr', hlease', hstep'⟩ := rebinding (by rw [hlease]; exact hb) (hstep.opened ho)
    obtain ⟨rfl, hd⟩ := hstep'.eq_of_current (hstep.bound hok)
    exact ⟨hr', hd, hlease'⟩

/-- A holder whose surface was destroyed behind its back. -/
def bereft : Session Float32 (Canvas Float32) where
  display := initial.run
    [.window 3 2, .call (.openDisplay displayId), .call (.createContext displayId configId),
      .call (.createSurface displayId configId 0),
      .call (.makeCurrent displayId (some { context := 1, surface := 2 })),
      .call (.destroySurface displayId 2)]
  lease := ⟨some displayId, some configId, some 1, some 2⟩
  control := .initial
  trace := #[]

theorem rebindingLaws_bereft :
    (ensureCurrent.outcome bereft).1 = .ok (.error (.contextLost .badSurface)) ∧
      (ensureCurrent.outcome bereft).2.display.current = none := by
  obtain ⟨r, hr, laws⟩ := rebindingLaws (s := bereft) (b := { context := 1, surface := 2 })
    (Reachable.initial.run _) rfl rfl
  have hcontext : bereft.display.live .context 1 = true := rfl
  have hsurface : bereft.display.live .surface 2 = false := rfl
  have hlost : r ≠ .ok () := by
    rw [Ne, laws.ok_iff, hsurface]
    exact fun h => nomatch h.2
  obtain ⟨hdisplay, hcause⟩ := laws.lost hlost
  rw [hr, hcause, hcontext, hdisplay]
  exact ⟨rfl, rfl⟩

end Canvas
end FireflyOverlay
