import FireflyOverlay.Proofs.Canvas.Runs
import FireflyOverlay.Proofs.Lease.Exchanges

/-!
# The code that a canvas keeps

A call that fails leaves the code of its first failing check, and nothing else; asking for the code
takes it away.

* `Change.failed`, `Change.granted`   what a call that fails, or does not fail, says about its checks
                       and does to the code;
* `Canvas.pending`     of the calls so far, the code of the last one that failed since the code was
                       last asked for (`lastError_run`);
* `Reported`           the calls of a lease operation end with one that fails, and the cause is given
                       the code right away;
* `Canvas.replays_of_returns`   a play on a canvas always ends;
* `Canvas.Blamed`      the code of a cause is the code of the check at which that call failed
                       (`blamed_of_reported`);
* `codeLaws`           the laws of codes.
-/

namespace FireflyOverlay

variable {α : Type}

namespace Canvas

section
variable [Scalar α] [Root α] {s s' : Canvas α} {c : Call α} {r : c.Reply}

/-! ## one call -/

theorem Change.failed (h : Change s c r s') (hf : Exchange.failed ⟨c, r⟩ = true) :
    ∃ code, s.fault? c = some code ∧ (∀ told ∈ Exchange.told? ⟨c, r⟩, told = code) ∧
      s' = { s with lastError := code } := by
  cases h with
  | refused h hr ht => exact ⟨_, h, ht, rfl⟩
  | _ => cases hf

theorem Change.granted (h : Change s c r s') (hf : Exchange.failed ⟨c, r⟩ = false) :
    s.fault? c = none ∧ (c ≠ .lastError → s'.lastError = s.lastError) := by
  cases h with
  | refused h hr ht =>
    rw [hr] at hf
    cases hf
  | toldCode => exact ⟨rfl, fun hc => absurd rfl hc⟩
  | named | toldContext | toldSurface | ignored | drawn => exact ⟨rfl, fun _ => rfl⟩
  | opened => exact ⟨rfl, fun _ => rfl⟩
  | chosen ho | unbound ho =>
    exact ⟨(fault?_open ho (List.append_nil _).symm).trans rfl, fun _ => rfl⟩
  | madeContext ho => exact ⟨(fault?_open ho rfl).trans rfl, fun _ => rfl⟩
  | @madeSurface w v ho hw hv =>
    have hp : s.hasPixels w = true := hasPixels_iff.mpr ⟨v, hw, hv⟩
    exact ⟨(fault?_open ho rfl).trans (by simp [firstFault?, hp]), fun _ => rfl⟩
  | bound ho hc ht =>
    exact ⟨(fault?_open ho rfl).trans
      (by simp [firstFault?, Table.contains_of_some hc, Table.contains_of_some ht]), fun _ => rfl⟩
  | shown ho ht | endedSurface ho ht =>
    exact ⟨(fault?_open ho rfl).trans (by simp [firstFault?, Table.contains_of_some ht]),
      fun _ => rfl⟩
  | endedContext ho hc =>
    exact ⟨(fault?_open ho rfl).trans (by simp [firstFault?, Table.contains_of_some hc]),
      fun _ => rfl⟩

/-! ## any number of calls -/

end

end Canvas

def Call.asksCode : Call α → Bool
  | .lastError => true
  | _ => false

theorem asksCode_of_failed {x : Exchange α} (h : x.failed = true) : x.call.asksCode = false := by
  unfold Exchange.failed at h
  split at h <;> first | rfl | cases h

namespace Canvas

/-- A call, with the code of its first failing check if it fails. -/
def verdict? (s : Canvas α) (x : Exchange α) : Option (Call α × Option ErrorCode) :=
  some (x.call, if x.failed then s.fault? x.call else none)

/-- The code of the last call that failed since the code was last asked for. -/
def pending (vs : List (Call α × Option ErrorCode)) : ErrorCode :=
  ((vs.reverse.takeWhile fun v => !v.1.asksCode).findSome? (·.2)).getD .success

theorem pending_concat (vs : List (Call α × Option ErrorCode)) (c : Call α)
    (code : Option ErrorCode) :
    pending (vs ++ [(c, code)]) = if c.asksCode then .success else code.getD (pending vs) := by
  unfold pending
  rw [List.reverse_append]
  show (((c, code) :: vs.reverse).takeWhile _ |>.findSome? _).getD _ = _
  cases hc : c.asksCode <;> cases code <;> simp [hc]

variable [Scalar α] [Root α]

theorem Change.lastError_eq {s s' : Canvas α} {c : Call α} {r : c.Reply} (h : Change s c r s') :
    s'.lastError = if c.asksCode then .success
      else (if Exchange.failed ⟨c, r⟩ then s.fault? c else none).getD s.lastError := by
  cases h with
  | refused h hr ht =>
    have hc := asksCode_of_failed hr
    dsimp only at hc
    rw [hc, hr, h]
    rfl
  | _ => rfl

theorem lastError_run (as : List (Action α)) :
    (initial.run as).lastError = pending (seen verdict? .initial as) := by
  refine run_induction (P := fun as s => s.lastError = pending (seen verdict? .initial as)) rfl
    (fun as w v ih => ?_) (fun as c r s' hr hc ih => ?_) as
  · rw [seen_window]
    exact ih
  · rw [seen_call _ hr]
    show s'.lastError = pending (_ ++ [(c, _)])
    rw [pending_concat, ← ih]
    exact hc.lastError_eq

end Canvas

/-! ## causes -/

/-- The calls whose failure a cause reports. -/
def DisplayError.isAbout : DisplayError → Call α → Bool
  | .noDisplay _, .defaultDisplay | .openFailed _, .openDisplay _
  | .chooseConfigFailed _, .chooseConfig _ _ | .createContextFailed _, .createContext _ _
  | .createSurfaceFailed _, .createSurface _ _ _ | .makeCurrentFailed _, .makeCurrent _ _
  | .contextLost _, .makeCurrent _ _ | .swapFailed _, .swapBuffers _ _ => true
  | _, _ => false

/-- The last call fails, and the cause `e` is given its code `code`: the answer says it, or it is
asked for right away. -/
def Reported (xs : List (Exchange α)) (e : DisplayError) (code : ErrorCode) : Prop :=
  ∃ pre x post, xs = pre ++ x :: post ∧ e.isAbout x.call = true ∧ x.failed = true ∧
    (x.told? = some code ∧ post = [] ∨ post = [⟨.lastError, code⟩])

theorem Reported.after {xs : List (Exchange α)} {e : DisplayError} {code : ErrorCode}
    (h : Reported xs e code) (pre : List (Exchange α)) : Reported (pre ++ xs) e code := by
  obtain ⟨pre', x, post, rfl, hx⟩ := h
  exact ⟨pre ++ pre', x, post, (List.append_assoc ..).symm, hx⟩

theorem Refusal.reported {xs : List (Exchange α)} {e : DisplayError} {code : ErrorCode}
    (h : Refusal xs e) (hc : e.code? = some code) : Reported xs e code := by
  cases h with
  | noConfig => cases hc
  | choice d f code' =>
    cases hc
    exact ⟨[], _, [], rfl, rfl, rfl, .inl ⟨rfl, rfl⟩⟩
  | _ =>
    cases hc
    exact ⟨[], _, _, rfl, rfl, rfl, .inr rfl⟩

theorem Acquisition.reported {w : WindowId} {l l' : Lease} {xs : List (Exchange α)}
    {e : DisplayError} {code : ErrorCode} (h : Acquisition w l xs (.error e) l')
    (hc : e.code? = some code) : Reported xs e code := by
  cases h with
  | refused h k x xs e _ hx => exact (hx.reported hc).after _

theorem Ensured.reported {d : DisplayId} {b : Binding} {xs : List (Exchange α)} {e : DisplayError}
    {code : ErrorCode} (h : Ensured d b xs (.error e)) (hc : e.code? = some code) :
    Reported xs e code := by
  obtain ⟨asked, code', rfl, -, rfl⟩ := h.eq_lost
  cases hc
  exact ⟨asked, _, _, rfl, rfl, rfl, .inr rfl⟩

theorem Presented.reported {d : DisplayId} {t : SurfaceId} {xs : List (Exchange α)}
    {e : DisplayError} {code : ErrorCode} (h : Presented d t xs (.error e))
    (hc : e.code? = some code) : Reported xs e code := by
  obtain ⟨code', rfl, rfl⟩ := h.eq_refused
  cases hc
  exact ⟨[], _, _, rfl, rfl, rfl, .inr rfl⟩

namespace Canvas

variable [Scalar α] [Root α]

/-- Along the calls `xs` from `s`, the code is that of the check at which the call failed that `e`
reports; after it nothing but the code is asked for. -/
def Blamed (s : Canvas α) (xs : List (Exchange α)) (e : DisplayError) (code : ErrorCode) : Prop :=
  ∃ pre x post t, xs = pre ++ x :: post ∧ e.isAbout x.call = true ∧ x.failed = true ∧
    Replays s pre t ∧ t.fault? x.call = some code ∧ ∀ y ∈ post, y.call = .lastError

theorem blamed_of_reported {s s' : Canvas α} {xs : List (Exchange α)} {e : DisplayError}
    {code : ErrorCode} (h : Reported xs e code) (hr : Replays s xs s') : s.Blamed xs e code := by
  obtain ⟨pre, ⟨c, r⟩, post, rfl, habout, hfailed, hpost⟩ := h
  obtain ⟨t, hpre, ⟨hreply, hrest⟩⟩ := replays_append.mp hr
  obtain ⟨r', hr', hc⟩ := change_step c t
  obtain rfl : r' = r := Option.some.inj (hr'.symm.trans hreply)
  obtain ⟨code', hfault, htold, hkept⟩ := hc.failed hfailed
  refine ⟨pre, ⟨c, r'⟩, post, t, rfl, habout, hfailed, hpre, ?_, ?_⟩
  · rcases hpost with ⟨ht, -⟩ | rfl
    · rw [htold code ht]
      exact hfault
    · -- the question is answered by the code that the call left
      have hasked : some (step c t).2.lastError = some code := hrest.1
      rw [hkept] at hasked
      rw [← Option.some.inj hasked]
      exact hfault
  · rcases hpost with ⟨-, rfl⟩ | rfl
    · exact nofun
    · exact fun y hy => by rw [List.mem_singleton.mp hy]

/-- A play on a canvas always ends, and every code that it returns is blamed on a call. -/
def Blames (m : Play α (Canvas α) (Except DisplayError Unit)) (s : Session α (Canvas α)) : Prop :=
  ∃ r es, (m.outcome s).1 = .ok r ∧ (m.outcome s).2.trace.toList = s.trace.toList ++ es ∧
    ∀ e code, r = .error e → e.code? = some code → s.display.Blamed (exchanges es) e code

/-- A play on a canvas always ends, and its calls lead from one canvas to the other. -/
theorem replays_of_returns {β : Type} {m : Play α (Canvas α) β} {s : Session α (Canvas α)}
    {Q : β → List (Event α) → Session α (Canvas α) → Prop} (h : m.Returns s Q) :
    ∃ r es, (m.outcome s).1 = .ok r ∧
      (m.outcome s).2.trace.toList = s.trace.toList ++ es ∧
      Replays s.display (exchanges es) (m.outcome s).2.display ∧ Q r es (m.outcome s).2 := by
  obtain ⟨es, hp, hr⟩ := h
  have hcrash : ¬ Crashed es := hp.display.not_crashed reply_isSome
  cases hm : (m.outcome s).1 with
  | error _ =>
    rw [hm] at hr
    exact absurd hr hcrash
  | ok r =>
    rw [hm] at hr
    exact ⟨r, es, rfl, hp.trace, hp.display.replays hcrash, hr⟩

theorem blames_of_returns {m : Play α (Canvas α) (Except DisplayError Unit)}
    {s : Session α (Canvas α)} {Q : Except DisplayError Unit → List (Event α) →
      Session α (Canvas α) → Prop} (h : m.Returns s Q)
    (hQ : ∀ e es s' code, Q (.error e) es s' → e.code? = some code →
      Reported (exchanges es) e code) : Blames m s := by
  obtain ⟨r, es, hm, ht, hplay, hr⟩ := replays_of_returns h
  refine ⟨r, es, hm, ht, ?_⟩
  rintro e code rfl hcode
  exact blamed_of_reported (hQ e es _ code hr hcode) hplay

theorem blames_acquire (w : WindowId) (s : Session α (Canvas α)) : Blames (acquire w) s :=
  blames_of_returns (returns_acquire w s) fun _ _ _ _ h hc => h.reported hc

theorem blames_ensureCurrent (s : Session α (Canvas α)) : Blames ensureCurrent s := by
  refine blames_of_returns (returns_ensureCurrent s) fun e es s' code h hc => ?_
  cases hb : s.lease.bound? with
  | none =>
    rw [hb] at h
    cases h.2.2
    cases hc
  | some db =>
    rw [hb] at h
    exact h.2.2.reported hc

theorem blames_present (s : Session α (Canvas α)) : Blames present s := by
  refine blames_of_returns (returns_present s) fun e es s' code h hc => ?_
  cases hb : s.lease.bound? with
  | none =>
    rw [hb] at h
    cases h.2.2
    cases hc
  | some db =>
    rw [hb] at h
    exact h.2.reported hc

/-! ## the laws -/

structure CodeLaws (α : Type) [Scalar α] [Root α] : Prop where
  answered : ∀ (s : Canvas α) c, ∃ r, (step c s).1.reply = some r
  /-- a call that fails leaves the code of the first check that does not hold, and nothing else -/
  failed : ∀ (s : Canvas α) c r, (step c s).1.reply = some r → Exchange.failed ⟨c, r⟩ = true →
    ∃ pre code post, s.checks c = pre ++ (false, code) :: post ∧
      (∀ check ∈ pre, check.1 = true) ∧ code ≠ .success ∧
      (∀ told ∈ Exchange.told? ⟨c, r⟩, told = code) ∧ (step c s).2 = { s with lastError := code }
  granted : ∀ (s : Canvas α) c r, (step c s).1.reply = some r → Exchange.failed ⟨c, r⟩ = false →
    s.fault? c = none ∧ (c ≠ .lastError → (step c s).2.lastError = s.lastError)
  /-- of a run, the last failure since the code was last asked for -/
  asked : ∀ as : List (Action α),
    (step .lastError (initial.run as)).1.reply = some (pending (seen verdict? .initial as))
  /-- of the causes that the operations of a lease return -/
  acquire : ∀ w (s : Session α (Canvas α)), Blames (acquire w) s
  ensureCurrent : ∀ s : Session α (Canvas α), Blames ensureCurrent s
  present : ∀ s : Session α (Canvas α), Blames present s

theorem codeLaws : CodeLaws α where
  answered s c := by
    obtain ⟨r, hr, -⟩ := change_step c s
    exact ⟨r, hr⟩
  failed s c r hr hf := by
    obtain ⟨r', hr', hc⟩ := change_step c s
    obtain rfl : r' = r := Option.some.inj (hr'.symm.trans hr)
    obtain ⟨code, hfault, htold, hs⟩ := hc.failed hf
    obtain ⟨pre, post, hchecks, hpre⟩ := firstFault?_eq_some.mp hfault
    exact ⟨pre, code, post, hchecks, hpre, fault?_ne_success hfault, htold, hs⟩
  granted s c r hr hf := by
    obtain ⟨r', hr', hc⟩ := change_step c s
    obtain rfl : r' = r := Option.some.inj (hr'.symm.trans hr)
    exact hc.granted hf
  asked as := congrArg some (lastError_run as)
  acquire := blames_acquire
  ensureCurrent := blames_ensureCurrent
  present := blames_present

end Canvas
end FireflyOverlay
