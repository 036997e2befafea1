import FireflyOverlay.Proofs.Renderer.Crashes

/-!
# The first crash

Where only some calls can crash, the parts of a run without these calls return.  Of what is left it
matters on which display the first crash is.

* `Play.Calm`       plays that never crash, such as those of calls that are answered (`closed_calm`);
* `BreaksIn I d es`   some call of `es` crashed, and the first that did found a display as `I` says;
* `Play.Stays I`    plays that crash, if at all, on such a display; they are put together one after
                    the other (`Play.Stays.bind`, `Play.Calm.stays`);
* `closed_stays`    what every answered call keeps is kept by plays of such calls.
-/

namespace FireflyOverlay

variable {α σ β γ : Type}

/-! ## plays that never crash -/

section
variable [Display α σ]
open Play

def Play.Calm (m : Play α σ β) : Prop :=
  ∀ s, m.Leads s fun r es _ => (∃ v, r = .ok v) ∧ ¬ Crashed es

theorem Play.GoesOn.calm {m : Play α σ β} (h : m.GoesOn)
    (hr : ∀ s, m.Leads s fun r _ _ => ∃ v, r = .ok v) : m.Calm := by
  refine fun s => ((h s).and (hr s)).mono fun r es _ hs => ?_
  obtain ⟨hes, v, rfl⟩ := hs
  exact ⟨⟨v, rfl⟩, hes.broken⟩

theorem calm_holdLease (f : Lease → Lease) : (holdLease f : Play α σ Unit).Calm :=
  (goesOn_holdLease f).calm fun s => (leads_holdLease f s).mono fun _ _ _ h => ⟨(), h.1⟩

theorem calm_request (r : Requests) : (request r : Play α σ Unit).Calm :=
  (goesOn_request r).calm fun s => (leads_request r s).mono fun _ _ _ h => ⟨(), h.1⟩

theorem calm_reach (state : Lifecycle) (h : state ≠ .terminated) :
    (reach state : Play α σ Unit).Calm :=
  (goesOn_reach h).calm fun s => (leads_reach state s).mono fun _ _ _ h => ⟨(), h.1⟩

/-- The calls that a play makes are answered, so it returns. -/
theorem closed_calm : Closed (fun _ (m : Play α σ _) => m.Calm)
    fun c => ∀ d : σ, (Display.step c d).1.reply.isSome = true where
  pure v _ := .pure ⟨⟨v, rfl⟩, not_crashed_nil⟩
  bind h hf s := by
    refine (h s).bind (fun _ _ _ h => nomatch h.1) fun v es s' hes => ?_
    exact (hf v s').mono fun _ _ _ hfs => ⟨hfs.1, not_crashed_append hes.2 hfs.2⟩
  get h s := .get (h s s)
  log level message := (goesOn_log level message).calm fun s =>
    (leads_log level message s).mono fun _ _ _ h => ⟨(), h.1⟩
  perform c hc := (goesOn_perform c).calm fun s => (leads_perform c s).mono fun r _ _ h => by
    have hsome := hc s.display
    rw [← h.1] at hsome
    cases r with
    | error _ => cases hsome
    | ok v => exact ⟨v, rfl⟩

/-! ## where the first crash is -/

def BreaksIn (I : σ → Prop) (d : σ) (es : List (Event α)) : Prop :=
  ∃ pre c later d', es = pre ++ .call c none :: later ∧ ¬ Crashed pre ∧
    Replays d (exchanges pre) d' ∧ I d' ∧ (Display.step c d').1.reply = none

namespace BreaksIn

variable {I : σ → Prop} {d d' : σ} {es fs : List (Event α)}

theorem prepend (hr : Replays d (exchanges es) d') (hn : ¬ Crashed es) (h : BreaksIn I d' fs) :
    BreaksIn I d (es ++ fs) := by
  obtain ⟨pre, c, later, t, rfl, hpre, ht, hI, hc⟩ := h
  refine ⟨es ++ pre, c, later, t, (List.append_assoc ..).symm, not_crashed_append hn hpre, ?_, hI,
    hc⟩
  rw [exchanges_append]
  exact replays_append.mpr ⟨d', hr, ht⟩

theorem append (h : BreaksIn I d es) (fs : List (Event α)) : BreaksIn I d (es ++ fs) := by
  obtain ⟨pre, c, later, t, rfl, hpre, ht, hI, hc⟩ := h
  exact ⟨pre, c, later ++ fs, t, by simp, hpre, ht, hI, hc⟩

end BreaksIn

/-- Either `m` returns, and then `Q`, or it crashes on a display as `I` says. -/
def Play.Stays (I : σ → Prop) (m : Play α σ β) (s : Session α σ)
    (Q : β → Session α σ → Prop) : Prop :=
  m.Leads s fun r es s' => match r with
    | .ok v => ¬ Crashed es ∧ Q v s'
    | .error _ => BreaksIn I s.display es

namespace Play.Stays

variable {I : σ → Prop} {s : Session α σ} {Q : β → Session α σ → Prop}

theorem mono {m : Play α σ β} {Q' : β → Session α σ → Prop} (h : m.Stays I s Q)
    (hQ : ∀ v s', Q v s' → Q' v s') : m.Stays I s Q' := by
  refine Leads.mono h fun r es s' hr => ?_
  cases r with
  | ok v => exact ⟨hr.1, hQ v s' hr.2⟩
  | error _ => exact hr

theorem pure {v : β} (h : Q v s) : Stays I (pure v) s Q := Leads.pure ⟨not_crashed_nil, h⟩

theorem get {f : Session α σ → Play α σ γ} {R : γ → Session α σ → Prop} (h : (f s).Stays I s R) :
    Stays I (MonadState.get >>= f : Play α σ γ) s R := Leads.get h

theorem bind {m : Play α σ β} {f : β → Play α σ γ} {R : γ → Session α σ → Prop}
    (h : m.Stays I s Q) (hf : ∀ v s', Q v s' → (f v).Stays I s' R) :
    (m >>= f).Stays I s R := by
  refine (Leads.plays h).bind (fun _ _ _ hes => hes.2) fun v es s' hes => ?_
  obtain ⟨hp, hn, hq⟩ := hes
  refine Leads.mono (hf v s' hq) fun r fs s'' hr => ?_
  cases r with
  | ok w => exact ⟨not_crashed_append hn hr.1, hr.2⟩
  | error _ => exact hr.prepend (hp.display.replays hn) hn

end Play.Stays

/-- A play that never crashes does what it does where it returns. -/
theorem Play.Calm.stays {m : Play α σ β} {s : Session α σ}
    {Q : β → List (Event α) → Session α σ → Prop} (h : m.Calm) (hr : m.Returns s Q)
    (I : σ → Prop) : m.Stays I s fun v s' =>
      ∃ es, Replays s.display (exchanges es) s'.display ∧ Q v es s' := by
  refine (((h s).and hr.leads).plays).mono fun r es s' hs => ?_
  obtain ⟨hp, ⟨⟨v, rfl⟩, hn⟩, hq⟩ := hs
  exact ⟨hn, es, hp.display.replays hn, hq⟩

/-- What the calls keep where they are answered, a play of them keeps. -/
theorem closed_stays (I : σ → Prop) : Closed
    (fun _ (m : Play α σ _) => ∀ s, I s.display →
      m.Stays I s fun _ s' => I s'.display ∧ s'.lease = s.lease)
    fun c => ∀ d v, I d → (Display.step c d).1.reply = some v → I (Display.step c d).2 where
  pure _ _ hI := .pure ⟨hI, rfl⟩
  bind h hf s hI := (h s hI).bind fun v s' hs =>
    (hf v s' hs.1).mono fun _ _ hs' => ⟨hs'.1, hs'.2.trans hs.2⟩
  get h s hI := .get (h s s hI)
  log level message s hI := (leads_log level message s).mono fun r es s' h => by
    obtain ⟨rfl, rfl, hd, hl⟩ := h
    exact ⟨by simp [Crashed], hd.symm ▸ hI, hl⟩
  perform c hc s hI := by
    refine ((leads_perform c s).and (goesOn_perform c s)).mono fun r es s' h => ?_
    obtain ⟨⟨hreply, rfl, hd, hl⟩, hgo⟩ := h
    cases r with
    | ok v => exact ⟨hgo.broken, hd.symm ▸ hc _ v hI hreply.symm, hl⟩
    | error _ =>
      have hnone : (Display.step c s.display).1.reply = none := hreply.symm
      have hes : callEvents c (Display.step c s.display).1 = [] ++ .call c none ::
          ((Display.step c s.display).1.logs.map .log ++
            requestEvents (Display.step c s.display).1.requests) := by
        rw [callEvents, hnone, List.append_assoc]
        rfl
      exact ⟨[], c, _, s.display, hes, not_crashed_nil, rfl, hI, hnone⟩

end
end FireflyOverlay
