import FireflyOverlay.Proofs.Play

/-!
# The calls of a lease

Which calls each operation of a lease makes, with their answers, and what it leaves in the lease.

* `Refusal xs e`      the calls of a step that fails: the call with its sentinel, and the question
                      for the code if there is one.  `e` is the cause that they are reported as;
* `Handles`           what a whole acquisition gets; `Handles.steps` are its six calls, and
                      `Handles.hold k` puts into a lease what the first `k` of them give;
* `Acquisition`       all six steps, or the first `k` and then one that fails (`returns_acquire`);
* `Asked`, `Ensured`  what `ensureCurrent` asks, and that it binds again exactly where the answers
                      differ from the lease (`returns_ensureCurrent`);
* `Presented`         a swap, and its code where it fails (`returns_present`);
* `Released`          what `release` does with the lease, failures or not (`returns_release`), and
                      `Lease.releaseCalls`, its calls.
-/

namespace FireflyOverlay

variable {α σ : Type}

/-! ## steps that fail -/

inductive Refusal : List (Exchange α) → DisplayError → Prop
  | display (code) : Refusal [⟨.defaultDisplay, none⟩, ⟨.lastError, code⟩] (.noDisplay code)
  | opening (d code) : Refusal [⟨.openDisplay d, none⟩, ⟨.lastError, code⟩] (.openFailed code)
  | choice (d f code) :
    Refusal [⟨.chooseConfig d f, .error code⟩] (.chooseConfigFailed code)
  | noConfig (d f) : Refusal [⟨.chooseConfig d f, .ok none⟩] .noMatchingConfig
  | context (d c code) :
    Refusal [⟨.createContext d c, none⟩, ⟨.lastError, code⟩] (.createContextFailed code)
  | surface (d c w code) :
    Refusal [⟨.createSurface d c w, none⟩, ⟨.lastError, code⟩] (.createSurfaceFailed code)
  | binding (d b code) :
    Refusal [⟨.makeCurrent d (some b), false⟩, ⟨.lastError, code⟩] (.makeCurrentFailed code)

/-! ## acquiring -/

structure Handles where
  display : DisplayId
  version : Nat × Nat
  config : ConfigId
  context : ContextId
  surface : SurfaceId

namespace Handles

def binding (h : Handles) : Binding := ⟨h.surface, h.context⟩

def steps (h : Handles) (window : WindowId) : List (Exchange α) :=
  [⟨.defaultDisplay, some h.display⟩, ⟨.openDisplay h.display, some h.version⟩,
   ⟨.chooseConfig h.display .overlay, .ok (some h.config)⟩,
   ⟨.createContext h.display h.config, some h.context⟩,
   ⟨.createSurface h.display h.config window, some h.surface⟩,
   ⟨.makeCurrent h.display (some h.binding), true⟩]

def hold (h : Handles) (k : Nat) (l : Lease) : Lease where
  display := if 1 ≤ k then some h.display else l.display
  config := if 3 ≤ k then some h.config else l.config
  context := if 4 ≤ k then some h.context else l.context
  surface := if 5 ≤ k then some h.surface else l.surface

end Handles

/-- From the lease `l` the calls `xs` lead to a result and a lease. -/
inductive Acquisition (window : WindowId) (l : Lease) :
    List (Exchange α) → Except DisplayError Unit → Lease → Prop
  | complete (h : Handles) : Acquisition window l (h.steps window) (.ok ()) (h.hold 6 l)
  | refused (h : Handles) (k : Nat) (x : Exchange α) (xs : List (Exchange α)) (e : DisplayError)
    (hk : ((h.steps window).map Exchange.call)[k]? = some x.call) (hx : Refusal (x :: xs) e) :
    Acquisition window l ((h.steps window).take k ++ x :: xs) (.error e) (h.hold k l)

/-! ## using -/

/-- The questions whether the binding `b` is current, and whether it is. -/
inductive Asked (b : Binding) : List (Exchange α) → Bool → Prop
  | current : Asked b [⟨.currentContext, some b.context⟩, ⟨.currentSurface, some b.surface⟩] true
  | otherContext (c) (h : c ≠ some b.context) : Asked b [⟨.currentContext, c⟩] false
  | otherSurface (t) (h : t ≠ some b.surface) :
    Asked b [⟨.currentContext, some b.context⟩, ⟨.currentSurface, t⟩] false

inductive Ensured (d : DisplayId) (b : Binding) :
    List (Exchange α) → Except DisplayError Unit → Prop
  | current {xs} (h : Asked b xs true) : Ensured d b xs (.ok ())
  | rebound {xs} (h : Asked b xs false) :
    Ensured d b (xs ++ [⟨.makeCurrent d (some b), true⟩]) (.ok ())
  | lost {xs} (h : Asked b xs false) (code) :
    Ensured d b (xs ++ [⟨.makeCurrent d (some b), false⟩, ⟨.lastError, code⟩])
      (.error (.contextLost code))

inductive Presented (d : DisplayId) (t : SurfaceId) :
    List (Exchange α) → Except DisplayError Unit → Prop
  | shown : Presented d t [⟨.swapBuffers d t, true⟩] (.ok ())
  | refused (code) :
    Presented d t [⟨.swapBuffers d t, false⟩, ⟨.lastError, code⟩] (.error (.swapFailed code))

theorem Presented.eq_shown {d : DisplayId} {t : SurfaceId} {xs : List (Exchange α)}
    (h : Presented d t xs (.ok ())) : xs = [⟨.swapBuffers d t, true⟩] := by
  cases h
  rfl

theorem Presented.eq_refused {d : DisplayId} {t : SurfaceId} {xs : List (Exchange α)}
    {e : DisplayError} (h : Presented d t xs (.error e)) :
    ∃ code, xs = [⟨.swapBuffers d t, false⟩, ⟨.lastError, code⟩] ∧ e = .swapFailed code := by
  cases h with
  | refused code => exact ⟨code, rfl, rfl⟩

theorem Ensured.eq_lost {d : DisplayId} {b : Binding} {xs : List (Exchange α)} {e : DisplayError}
    (h : Ensured d b xs (.error e)) :
    ∃ asked code, xs = asked ++ [⟨.makeCurrent d (some b), false⟩, ⟨.lastError, code⟩] ∧
      Asked b asked false ∧ e = .contextLost code := by
  cases h with
  | @lost asked ha code => exact ⟨asked, code, rfl, ha, rfl⟩

/-! ## releasing -/

/-- A call that answers whether it is done; if it is not, the code is asked for. -/
inductive Tried (x : Bool → Exchange α) : List (Exchange α) → Prop
  | done : Tried x [x true]
  | refused (code) : Tried x [x false, ⟨.lastError, code⟩]

/-- A handle that is held is given up. -/
def GivenUp (held : Option Nat) (x : Nat → Bool → Exchange α) (xs : List (Exchange α)) : Prop :=
  match held with
  | none => xs = []
  | some n => Tried (x n) xs

def Released (l : Lease) (xs : List (Exchange α)) : Prop :=
  match l.display with
  | none => xs = []
  | some d => ∃ us cs ss, xs = us ++ cs ++ ss ∧
      Tried (fun done => ⟨.makeCurrent d none, done⟩) us ∧
      GivenUp l.context (fun c done => ⟨.destroyContext d c, done⟩) cs ∧
      GivenUp l.surface (fun t done => ⟨.destroySurface d t, done⟩) ss

/-- The calls of a release, failures or not. -/
def Lease.releaseCalls (l : Lease) : List (Call α) :=
  match l.display with
  | none => []
  | some d => .makeCurrent d none :: ((l.context.map (.destroyContext d)).toList ++
      (l.surface.map (.destroySurface d)).toList)

/-- A lease without a display keeps what it has. -/
def Lease.released (l : Lease) : Lease := if l.display.isSome then .empty else l

/-- A second release does nothing. -/
theorem Released.eq_nil {l : Lease} {xs : List (Exchange α)} (h : Released l.released xs) :
    xs = [] := by
  unfold Lease.released at h
  cases hd : l.display with
  | none =>
    rw [if_neg (by simp [hd]), Released, hd] at h
    exact h
  | some d =>
    rw [if_pos (by simp [hd])] at h
    exact h

theorem Tried.calls {x : Bool → Exchange α} {c : Call α} {xs : List (Exchange α)}
    (h : Tried x xs) (hx : ∀ done, (x done).call = c) (hc : c.isQuery = false) :
    (xs.filter fun y => !y.call.isQuery).map Exchange.call = [c] := by
  cases h with
  | done => simp [hx, hc]
  | refused code =>
    have hq : (Call.lastError (α := α)).isQuery = true := rfl
    simp [hx, hc, hq]

theorem GivenUp.calls {held : Option Nat} {x : Nat → Bool → Exchange α} {c : Nat → Call α}
    {xs : List (Exchange α)} (h : GivenUp held x xs) (hx : ∀ n done, (x n done).call = c n)
    (hc : ∀ n, (c n).isQuery = false) :
    (xs.filter fun y => !y.call.isQuery).map Exchange.call = (held.map c).toList := by
  cases held with
  | none => rw [show xs = [] from h]; rfl
  | some n => exact Tried.calls h (hx n) (hc n)

theorem Released.calls {l : Lease} {xs : List (Exchange α)} (h : Released l xs) :
    (xs.filter fun y => !y.call.isQuery).map Exchange.call = l.releaseCalls := by
  unfold Released at h
  unfold Lease.releaseCalls
  cases hd : l.display with
  | none => rw [hd] at h; rw [show xs = [] from h]; rfl
  | some d =>
    rw [hd] at h
    obtain ⟨us, cs, ss, rfl, hu, hc, hs⟩ := h
    rw [List.filter_append, List.filter_append, List.map_append, List.map_append,
      hu.calls (fun _ => rfl) rfl, hc.calls (fun _ _ => rfl) fun _ => rfl,
      hs.calls (fun _ _ => rfl) fun _ => rfl, List.append_assoc]
    rfl

/-! ## what the operations return -/

section
variable [Display α σ] {β : Type}

/-- A step of an acquisition: the one call `c`, which either answers `good v`, or else fails and
leaves the lease as it was. -/
def Attempt.IsStep (m : Attempt α σ β) (c : Call α) (good : β → c.Reply)
    (hold : β → Lease → Lease) : Prop :=
  ∀ s, m.Returns s
    (fun v es s' => exchanges es = [⟨c, good v⟩] ∧ s'.lease = hold v s.lease)
    fun e es s' => ∃ reply xs, Refusal (⟨c, reply⟩ :: xs) e ∧ exchanges es = ⟨c, reply⟩ :: xs ∧
      s'.lease = s.lease

theorem returns_failWith {c : Call α} {reply : c.Reply} {cause : ErrorCode → DisplayError}
    (hc : ∀ code, Refusal [⟨c, reply⟩, ⟨.lastError, code⟩] (cause code)) {es : List (Event α)}
    (he : exchanges es = [⟨c, reply⟩]) {l : Lease} {s : Session α σ} (hl : s.lease = l)
    {Q : β → List (Event α) → Session α σ → Prop} :
    (failWith cause : Attempt α σ β).Returns s Q fun e fs s' => ∃ reply xs,
      Refusal (⟨c, reply⟩ :: xs) e ∧ exchanges (es ++ fs) = ⟨c, reply⟩ :: xs ∧ s'.lease = l := by
  refine .bind (.lift (returns_perform .lastError s)) fun code fs s' h => .throw ?_
  refine ⟨reply, [⟨.lastError, code⟩], hc code, ?_, h.2.trans hl⟩
  rw [List.append_nil, exchanges_append, he, h.1]
  rfl

theorem returns_keep (put : Lease → Lease) (v : β) {s : Session α σ}
    {Q : β → List (Event α) → Session α σ → Prop}
    {F : DisplayError → List (Event α) → Session α σ → Prop}
    (h : ∀ s', s'.lease = put s.lease → Q v [] s') :
    (do keep put; return v : Attempt α σ β).Returns s Q F := by
  refine .bind (.lift (returns_holdLease put s)) fun _ es s' hs => .pure ?_
  rw [hs.1]
  exact h s' hs.2

theorem isStep_getHandle {c : Call α} {read : c.Reply → Option β}
    {cause : ErrorCode → DisplayError} {put : β → Lease → Lease} {good : β → c.Reply}
    (hgood : ∀ reply v, read reply = some v → reply = good v)
    (hbad : ∀ reply code, read reply = none →
      Refusal [⟨c, reply⟩, ⟨.lastError, code⟩] (cause code)) :
    (getHandle c read cause put : Attempt α σ β).IsStep c good put := by
  intro s
  refine .bind (.lift (returns_perform c s)) fun reply es s' h => ?_
  cases hr : read reply with
  | none => exact returns_failWith (fun code => hbad reply code hr) h.1 h.2
  | some v =>
    refine returns_keep _ v fun s'' hs => ⟨?_, ?_⟩
    · rw [List.append_nil, h.1, hgood reply v hr]
    · rw [hs, h.2]

theorem isStep_getDisplay : (getDisplay : Attempt α σ DisplayId).IsStep .defaultDisplay some
    fun d l => { l with display := some d } :=
  isStep_getHandle (fun _ _ h => h) fun _ code h => by cases h; exact .display code

theorem isStep_openDisplay (d : DisplayId) :
    (openDisplay d : Attempt α σ (Nat × Nat)).IsStep (.openDisplay d) some fun _ l => l :=
  isStep_getHandle (fun _ _ h => h) fun _ code h => by cases h; exact .opening d code

theorem isStep_getConfig (d : DisplayId) :
    (getConfig d : Attempt α σ ConfigId).IsStep (.chooseConfig d .overlay) (fun c => .ok (some c))
      fun c l => { l with config := some c } := by
  intro s
  refine .bind (.lift (returns_perform (.chooseConfig d .overlay) s)) fun reply es s' h => ?_
  rcases reply with code | _ | c
  · exact .throw ⟨.error code, [], .choice d _ code, by rw [List.append_nil, h.1], h.2⟩
  · exact .throw ⟨.ok none, [], .noConfig d _, by rw [List.append_nil, h.1], h.2⟩
  · refine returns_keep _ c fun s'' hs => ⟨?_, ?_⟩
    · rw [List.append_nil, h.1]
    · rw [hs, h.2]

theorem isStep_getContext (d : DisplayId) (c : ConfigId) :
    (getContext d c : Attempt α σ ContextId).IsStep (.createContext d c) some
      fun x l => { l with context := some x } :=
  isStep_getHandle (fun _ _ h => h) fun _ code h => by cases h; exact .context d c code

theorem isStep_getSurface (d : DisplayId) (c : ConfigId) (w : WindowId) :
    (getSurface d c w : Attempt α σ SurfaceId).IsStep (.createSurface d c w) some
      fun x l => { l with surface := some x } :=
  isStep_getHandle (fun _ _ h => h) fun _ code h => by cases h; exact .surface d c w code

theorem isStep_bindFirst (d : DisplayId) (b : Binding) :
    (bindFirst d b : Attempt α σ Unit).IsStep (.makeCurrent d (some b)) (fun _ => true)
      fun _ l => l := by
  intro s
  refine .bind (.lift (returns_perform (.makeCurrent d (some b)) s)) fun reply es s' h => ?_
  cases reply with
  | false => exact returns_failWith (.binding d b) h.1 h.2
  | true => exact .pure ⟨by rw [List.append_nil, h.1], h.2⟩

/-- What is left to do of an acquisition after the calls of `pre`; it began with the lease `l`. -/
def Attempt.Acquires (w : WindowId) (l : Lease) (pre : List (Event α)) (m : Attempt α σ Unit)
    (s : Session α σ) : Prop :=
  m.Returns s (fun _ fs s' => Acquisition w l (exchanges (pre ++ fs)) (.ok ()) s'.lease)
    fun e fs s' => Acquisition w l (exchanges (pre ++ fs)) (.error e) s'.lease

/-- After `k` steps the next one ends the acquisition if it fails.  Of the handles `h` only those
are fixed that the first `k` steps gave. -/
theorem Attempt.IsStep.acquires {m : Attempt α σ β} {c : Call α} {good : β → c.Reply}
    {put : β → Lease → Lease} (hm : m.IsStep c good put) (h : Handles) (k : Nat) {w : WindowId}
    {l : Lease} {pre : List (Event α)} {s : Session α σ} {f : β → Attempt α σ Unit}
    (hk : ((h.steps w).map Exchange.call)[k]? = some c)
    (hp : exchanges pre = (h.steps w).take k) (hl : s.lease = h.hold k l)
    (hf : ∀ v es s', exchanges (pre ++ es) = (h.steps w).take k ++ [⟨c, good v⟩] →
      s'.lease = put v (h.hold k l) → (f v).Acquires w l (pre ++ es) s') :
    (m >>= f).Acquires w l pre s := by
  have hs := hm s
  rw [hl] at hs
  have hs' : m.Returns s
      (fun v es s' => exchanges es = [⟨c, good v⟩] ∧ s'.lease = put v (h.hold k l))
      fun e es s' => Acquisition w l (exchanges (pre ++ es)) (.error e) s'.lease := by
    refine hs.mono fun r es s' _ hr => ?_
    cases r with
    | ok v => exact hr
    | error e =>
      obtain ⟨reply, xs, hx, he, hl'⟩ := hr
      show Acquisition w l (exchanges (pre ++ es)) (.error e) s'.lease
      rw [exchanges_append, hp, he, hl']
      exact .refused h k ⟨c, reply⟩ xs e hk hx
  refine hs'.bind fun v es s' hv => ?_
  have hn := hf v es s' (by rw [exchanges_append, hp, hv.1]) hv.2
  unfold Attempt.Acquires at hn
  simp only [List.append_assoc] at hn
  exact hn

theorem returns_announce (v : Nat × Nat) (c : ConfigId) (s : Session α σ) :
    (announce v c).Returns s fun _ es s' => exchanges es = [] ∧ s'.lease = s.lease :=
  .get (returns_log _ _ s)

theorem acquires_acquireAll (w : WindowId) (s : Session α σ) :
    (acquireAll w).Acquires w s.lease [] s := by
  refine isStep_getDisplay.acquires ⟨0, (0, 0), 0, 0, 0⟩ 0 rfl rfl rfl fun d es₁ s₁ h₁ l₁ => ?_
  refine (isStep_openDisplay d).acquires ⟨d, (0, 0), 0, 0, 0⟩ 1 rfl h₁ l₁ fun v es₂ s₂ h₂ l₂ => ?_
  refine (isStep_getConfig d).acquires ⟨d, v, 0, 0, 0⟩ 2 rfl h₂ l₂ fun c es₃ s₃ h₃ l₃ => ?_
  refine (isStep_getContext d c).acquires ⟨d, v, c, 0, 0⟩ 3 rfl h₃ l₃ fun x es₄ s₄ h₄ l₄ => ?_
  refine (isStep_getSurface d c w).acquires ⟨d, v, c, x, 0⟩ 4 rfl h₄ l₄ fun y es₅ s₅ h₅ l₅ => ?_
  refine (isStep_bindFirst d ⟨y, x⟩).acquires ⟨d, v, c, x, y⟩ 5 rfl h₅ l₅ fun _ es₆ s₆ h₆ l₆ => ?_
  refine .lift ((returns_announce v c s₆).mono fun _ fs s' _ h => ?_)
  rw [exchanges_append, h₆, h.1, h.2, l₆, List.append_nil]
  exact .complete ⟨d, v, c, x, y⟩

/-- **The calls of an acquisition**: all six steps, or those up to the first that fails. -/
theorem returns_acquire (w : WindowId) (s : Session α σ) :
    (acquire w).Returns s fun r es s' => Acquisition w s.lease (exchanges es) r s'.lease := by
  have ha := acquires_acquireAll w s
  unfold Attempt.Acquires Attempt.Returns at ha
  refine ha.bind fun r es s' hr => ?_
  cases r with
  | ok v => exact .pure (by rw [List.append_nil]; exact hr)
  | error e =>
    refine (returns_log _ _ s').bind fun _ fs s'' h => .pure ?_
    rw [List.append_nil, exchanges_append, h.1, h.2, List.append_nil]
    exact hr

theorem returns_isCurrent (b : Binding) (s : Session α σ) :
    (isCurrent b).Returns s fun r es s' =>
      StartsWith .currentContext es ∧ Asked b (exchanges es) r ∧ s'.lease = s.lease := by
  refine (returns_performFirst .currentContext s).bind fun c es s' h => ?_
  obtain ⟨hf, h⟩ := h
  by_cases hc : c = some b.context
  · rw [if_pos hc]
    refine (returns_perform .currentSurface s').bind fun t fs s'' h' => .pure ?_
    rw [List.append_nil, exchanges_append, h.1, h'.1, hc]
    refine ⟨hf.append fs, ?_, h'.2.trans h.2⟩
    by_cases ht : t = some b.surface
    · rw [ht, decide_eq_true rfl]
      exact .current
    · rw [decide_eq_false ht]
      exact .otherSurface t ht
  · rw [if_neg hc]
    refine .pure ⟨hf.append [], ?_, h.2⟩
    rw [List.append_nil, h.1]
    exact .otherContext c hc

/-- **The calls of `ensureCurrent`**: it asks, and binds again exactly where the answers differ. -/
theorem returns_ensureCurrent (s : Session α σ) :
    ensureCurrent.Returns s fun r es s' => s'.lease = s.lease ∧
      match s.lease.bound? with
      | none => exchanges es = [] ∧ r = .error .notAcquired
      | some (d, b) => StartsWith .currentContext es ∧ Ensured d b (exchanges es) r := by
  refine .get ?_
  cases hb : s.lease.bound? with
  | none => exact .pure ⟨rfl, rfl, rfl⟩
  | some db =>
    obtain ⟨d, b⟩ := db
    refine (returns_isCurrent b s).bind fun r es₁ s₁ h₁ => ?_
    obtain ⟨hf, h₁⟩ := h₁
    cases r with
    | true =>
      refine .pure ⟨h₁.2, hf.append [], ?_⟩
      rw [List.append_nil]
      exact .current h₁.1
    | false =>
      refine (returns_log _ _ s₁).bind fun _ es₂ s₂ h₂ => ?_
      refine (returns_perform (.makeCurrent d (some b)) s₂).bind fun bound es₃ s₃ h₃ => ?_
      cases bound with
      | true =>
        refine .pure ⟨h₃.2.trans (h₂.2.trans h₁.2), hf.append _, ?_⟩
        rw [exchanges_append, exchanges_append, exchanges_append, h₂.1, h₃.1]
        exact .rebound h₁.1
      | false =>
        refine (returns_perform .lastError s₃).bind fun code es₄ s₄ h₄ => ?_
        refine (returns_log _ _ s₄).bind fun _ es₅ s₅ h₅ => .pure ⟨?_, hf.append _, ?_⟩
        · exact h₅.2.trans (h₄.2.trans (h₃.2.trans (h₂.2.trans h₁.2)))
        · simp only [exchanges_append, h₂.1, h₃.1, h₄.1, h₅.1]
          exact .lost h₁.1 code

/-- **The calls of `present`.** -/
theorem returns_present (s : Session α σ) :
    present.Returns s fun r es s' => s'.lease = s.lease ∧
      match s.lease.bound? with
      | none => exchanges es = [] ∧ r = .error .notAcquired
      | some (d, b) => Presented d b.surface (exchanges es) r := by
  refine .get ?_
  cases hb : s.lease.bound? with
  | none => exact .pure ⟨rfl, rfl, rfl⟩
  | some db =>
    obtain ⟨d, b⟩ := db
    refine (returns_perform (.swapBuffers d b.surface) s).bind fun swapped es₁ s₁ h₁ => ?_
    cases swapped with
    | true =>
      refine .pure ⟨h₁.2, ?_⟩
      rw [List.append_nil, h₁.1]
      exact .shown
    | false =>
      refine (returns_perform .lastError s₁).bind fun code es₂ s₂ h₂ => ?_
      refine (returns_log _ _ s₂).bind fun _ es₃ s₃ h₃ => .pure ⟨?_, ?_⟩
      · exact h₃.2.trans (h₂.2.trans h₁.2)
      · simp only [exchanges_append, h₁.1, h₂.1, h₃.1]
        exact .refused code

theorem returns_orWarn {x : Bool → Exchange α} {step : Play α σ Bool} {s : Session α σ}
    (complaint : String)
    (hs : step.Returns s fun done es s' => exchanges es = [x done] ∧ s'.lease = s.lease) :
    (orWarn step complaint).Returns s fun _ es s' =>
      Tried x (exchanges es) ∧ s'.lease = s.lease := by
  refine hs.bind fun done es s' h => ?_
  cases done with
  | true => exact .pure ⟨by rw [List.append_nil, h.1]; exact .done, h.2⟩
  | false =>
    refine (returns_perform .lastError s').bind fun code fs s₁ h₁ => ?_
    refine (returns_log _ _ s₁).mono fun _ gs s₂ _ h₂ => ⟨?_, h₂.2.trans (h₁.2.trans h.2)⟩
    rw [exchanges_append, exchanges_append, h.1, h₁.1, h₂.1]
    exact .refused code

theorem returns_giveUp {held : Option Nat} {drop : Lease → Lease} {destroy : Nat → Play α σ Bool}
    {x : Nat → Bool → Exchange α} (complaint : String) (s : Session α σ)
    (hd : ∀ n s, (destroy n).Returns s fun done es s' =>
      exchanges es = [x n done] ∧ s'.lease = s.lease)
    (hn : held = none → drop s.lease = s.lease) :
    (giveUp held drop destroy complaint).Returns s fun _ es s' =>
      GivenUp held x (exchanges es) ∧ s'.lease = drop s.lease := by
  cases held with
  | none => exact .pure ⟨rfl, (hn rfl).symm⟩
  | some n =>
    refine (returns_holdLease drop s).bind fun _ es s' h => ?_
    refine (returns_orWarn complaint (hd n s')).mono fun _ fs s'' _ h' => ?_
    rw [h.1, List.nil_append, h'.2, h.2]
    exact ⟨h'.1, rfl⟩

theorem Lease.drop_context {l : Lease} (h : l.context = none) : { l with context := none } = l := by
  rw [← h]

theorem Lease.drop_surface {l : Lease} (h : l.surface = none) : { l with surface := none } = l := by
  rw [← h]

/-- **The calls of `release`.** -/
theorem returns_release (s : Session α σ) :
    release.Returns s fun _ es s' =>
      Released s.lease (exchanges es) ∧ s'.lease = s.lease.released := by
  refine .get ?_
  unfold Released Lease.released
  cases hd : s.lease.display with
  | none => exact .pure ⟨rfl, rfl⟩
  | some d =>
    refine (returns_holdLease _ s).bind fun _ es₁ s₁ h₁ => ?_
    refine (returns_orWarn _ (returns_perform (.makeCurrent d none) s₁)).bind
      fun _ es₂ s₂ h₂ => .get ?_
    refine (returns_giveUp _ s₂ (fun c => returns_perform (.destroyContext d c))
      Lease.drop_context).bind fun _ es₃ s₃ h₃ => .get ?_
    refine (returns_giveUp _ s₃ (fun t => returns_perform (.destroySurface d t))
      Lease.drop_surface).bind fun _ es₄ s₄ h₄ => ?_
    refine (returns_holdLease _ s₄).bind fun _ es₅ s₅ h₅ => ?_
    refine (returns_log _ _ s₅).mono fun _ es₆ s₆ _ h₆ => ⟨?_, ?_⟩
    · rw [h₂.2, h₁.2] at h₃
      rw [h₃.2] at h₄
      refine ⟨exchanges es₂, exchanges es₃, exchanges es₄, ?_, h₂.1, h₃.1, h₄.1⟩
      simp only [exchanges_append, h₁.1, h₅.1, h₆.1, List.nil_append,
        List.append_nil, List.append_assoc]
    · rw [h₆.2, h₅.2, h₄.2, h₃.2, h₂.2, h₁.2]
      rfl

end

end FireflyOverlay
