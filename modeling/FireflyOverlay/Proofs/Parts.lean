import FireflyOverlay.Proofs.Play

/-!
# Plays and their parts

Some things hold of a play because they hold of each of its parts.  They are followed through the
operations of a lease once and for all.

* `Play.Closed P allowed`   `P` goes over from parts to the whole, and holds of log records and of
                            the calls that are allowed;
* `closed_ensureCurrent`, `closed_present`   then it holds of the operations that use a lease;
* `closed_release`, `closed_acquire`   of a release and of an acquisition, if it also holds of all
                            changes of the lease.
-/

namespace FireflyOverlay

variable {α σ β γ : Type}

/-! ## kinds of calls -/

/-- Neither asks for a handle nor for the end of one. -/
def Call.isIdle : Call α → Bool
  | .createContext _ _ | .createSurface _ _ _ | .destroyContext _ _ | .destroySurface _ _ => false
  | _ => true

/-- The calls by which a lease is used. -/
def Call.isUse : Call α → Bool
  | .currentContext | .currentSurface | .makeCurrent _ (some _) | .swapBuffers _ _ | .lastError =>
    true
  | _ => false

/-- The calls by which a lease is given up. -/
def Call.isRelease : Call α → Bool
  | .makeCurrent _ none | .destroyContext _ _ | .destroySurface _ _ | .lastError => true
  | _ => false

theorem Call.isIdle_of_isUse {c : Call α} (h : c.isUse = true) : c.isIdle = true := by
  cases c <;> first | rfl | cases h

theorem Call.isDraw_of_isUse {c : Call α} (h : c.isUse = true) : c.isDraw = false := by
  cases c <;> first | rfl | cases h

theorem Call.isDraw_of_isRelease {c : Call α} (h : c.isRelease = true) : c.isDraw = false := by
  cases c <;> first | rfl | cases h

/-! ## what goes over to the whole -/

variable [Display α σ]

structure Play.Closed (P : (β : Type) → Play α σ β → Prop) (allowed : Call α → Prop) : Prop where
  pure : ∀ {β : Type} (v : β), P β (pure v)
  bind : ∀ {β γ : Type} {m : Play α σ β} {f : β → Play α σ γ},
    P β m → (∀ v, P γ (f v)) → P γ (m >>= f)
  get : ∀ {γ : Type} {f : Session α σ → Play α σ γ},
    (∀ s, P γ (f s)) → P γ (MonadState.get >>= f)
  log : ∀ level message, P Unit (log level message)
  perform : ∀ c, allowed c → P c.Reply (perform c)

variable {P : (β : Type) → Play α σ β → Prop} {allowed : Call α → Prop}

section
variable (h : Play.Closed P allowed) (hcode : allowed .lastError)
include h hcode

/-- The question for the code, and what is made of it. -/
theorem closed_code {f : ErrorCode → Play α σ β} (hf : ∀ code, P β (f code)) :
    P β (do let code ← perform .lastError; f code) := h.bind (h.perform _ hcode) hf

theorem closed_orWarn {step : Play α σ Bool} (hs : P Bool step) (complaint : String) :
    P Unit (orWarn step complaint) := by
  refine h.bind hs fun done => ?_
  cases done with
  | true => exact h.pure ()
  | false => exact closed_code h hcode fun _ => h.log _ _

theorem closed_giveUp (hold : ∀ f, P Unit (holdLease f)) {held : Option Nat}
    {drop : Lease → Lease} {destroy : Nat → Play α σ Bool} (hd : ∀ n, P Bool (destroy n))
    (complaint : String) : P Unit (giveUp held drop destroy complaint) := by
  cases held with
  | none => exact h.pure ()
  | some n => exact h.bind (hold drop) fun _ => closed_orWarn h hcode (hd n) complaint

end

/-! ## using and releasing -/

section
variable (h : Play.Closed P allowed)
include h

theorem closed_isCurrent (ha : ∀ c : Call α, c.isUse = true → allowed c) (b : Binding) :
    P Bool (isCurrent b) := by
  refine h.bind (h.perform _ (ha _ rfl)) fun c => ?_
  split
  · exact h.bind (h.perform _ (ha _ rfl)) fun _ => h.pure _
  · exact h.pure _

theorem closed_ensureCurrent (ha : ∀ c : Call α, c.isUse = true → allowed c) :
    P (Except DisplayError Unit) ensureCurrent := by
  refine h.get fun s => ?_
  cases s.lease.bound? with
  | none => exact h.pure _
  | some db =>
    refine h.bind (closed_isCurrent h ha _) fun current => ?_
    cases current with
    | true => exact h.pure _
    | false =>
      refine h.bind (h.log _ _) fun _ => h.bind (h.perform _ (ha _ rfl)) fun bound => ?_
      cases bound with
      | true => exact h.pure _
      | false => exact closed_code h (ha _ rfl) fun _ => h.bind (h.log _ _) fun _ => h.pure _

theorem closed_present (ha : ∀ c : Call α, c.isUse = true → allowed c) :
    P (Except DisplayError Unit) present := by
  refine h.get fun s => ?_
  cases s.lease.bound? with
  | none => exact h.pure _
  | some db =>
    refine h.bind (h.perform _ (ha _ rfl)) fun swapped => ?_
    cases swapped with
    | true => exact h.pure _
    | false => exact closed_code h (ha _ rfl) fun _ => h.bind (h.log _ _) fun _ => h.pure _

theorem closed_release (ha : ∀ c : Call α, c.isRelease = true → allowed c)
    (hold : ∀ f, P Unit (holdLease f)) : P Unit release := by
  have hunbind : ∀ d, P Bool (perform (.makeCurrent d none)) :=
    fun d => h.perform (.makeCurrent d none) (ha _ rfl)
  have hcontext : ∀ d n, P Bool (perform (.destroyContext d n)) :=
    fun d n => h.perform (.destroyContext d n) (ha _ rfl)
  have hsurface : ∀ d n, P Bool (perform (.destroySurface d n)) :=
    fun d n => h.perform (.destroySurface d n) (ha _ rfl)
  refine h.get fun s => ?_
  cases s.lease.display with
  | none => exact h.pure ()
  | some d =>
    refine h.bind (hold _) fun _ => ?_
    refine h.bind (closed_orWarn h (ha _ rfl) (hunbind d) _) fun _ => h.get fun _ => ?_
    refine h.bind (closed_giveUp h (ha _ rfl) hold (hcontext d) _) fun _ => h.get fun _ => ?_
    refine h.bind (closed_giveUp h (ha _ rfl) hold (hsurface d) _) fun _ => ?_
    exact h.bind (hold _) fun _ => h.log _ _

/-! ## acquiring -/

theorem closed_attempt {m : Attempt α σ β} {f : β → Attempt α σ γ} (hm : P _ m.run)
    (hf : ∀ v, P _ (f v).run) : P _ (m >>= f).run :=
  h.bind hm fun
    | .ok v => hf v
    | .error _ => h.pure _

theorem closed_lift {m : Play α σ β} (hm : P β m) :
    P _ (ExceptT.lift m : Attempt α σ β).run := h.bind hm fun _ => h.pure _

theorem closed_failWith (hcode : allowed .lastError) (cause : ErrorCode → DisplayError) :
    P _ (failWith cause : Attempt α σ β).run :=
  closed_attempt h (closed_lift h (h.perform _ hcode)) fun _ => h.pure _

theorem closed_keep {f : Lease → Lease} (hf : P Unit (holdLease f)) (v : β) :
    P _ (do keep f; return v : Attempt α σ β).run :=
  closed_attempt h (closed_lift h hf) fun _ => h.pure _

theorem closed_getHandle (hcode : allowed .lastError) {c : Call α} (hc : allowed c)
    {read : c.Reply → Option β} {cause : ErrorCode → DisplayError} {put : β → Lease → Lease}
    (hput : ∀ v, P Unit (holdLease (put v))) :
    P _ (getHandle c read cause put : Attempt α σ β).run := by
  refine closed_attempt h (closed_lift h (h.perform _ hc)) fun reply => ?_
  cases read reply with
  | none => exact closed_failWith h hcode cause
  | some v => exact closed_keep h (hput v) v

theorem closed_getConfig {d : DisplayId} (hc : allowed (.chooseConfig d .overlay))
    (hput : ∀ config, P Unit (holdLease fun l => { l with config := some config })) :
    P _ (getConfig d).run := by
  refine closed_attempt h (closed_lift h (h.perform _ hc)) fun reply => ?_
  rcases reply with code | _ | config
  · exact h.pure _
  · exact h.pure _
  · exact closed_keep h (hput config) config

theorem closed_bindFirst (hcode : allowed .lastError) {d : DisplayId} {b : Binding}
    (hc : allowed (.makeCurrent d (some b))) : P _ (bindFirst d b).run := by
  refine closed_attempt h (closed_lift h (h.perform _ hc)) fun bound => ?_
  cases bound with
  | true => exact h.pure _
  | false => exact closed_failWith h hcode _

theorem closed_acquire (ha : ∀ c : Call α, c.isDraw = false → allowed c)
    (hold : ∀ f, P Unit (holdLease f)) (w : WindowId) :
    P (Except DisplayError Unit) (acquire w) := by
  have hcode : allowed .lastError := ha _ rfl
  have hall : P _ (acquireAll w).run := by
    refine closed_attempt h (closed_getHandle h hcode (ha _ rfl) fun _ => hold _) fun d => ?_
    refine closed_attempt h (closed_getHandle h hcode (ha _ rfl) fun _ => hold _) fun _ => ?_
    refine closed_attempt h (closed_getConfig h (ha _ rfl) fun _ => hold _) fun config => ?_
    refine closed_attempt h (closed_getHandle h hcode (ha _ rfl) fun _ => hold _) fun context => ?_
    refine closed_attempt h (closed_getHandle h hcode (ha _ rfl) fun _ => hold _) fun surface => ?_
    refine closed_attempt h (closed_bindFirst h hcode (ha _ rfl)) fun _ => ?_
    exact closed_lift h (h.get fun _ => h.log _ _)
  refine h.bind hall fun result => ?_
  cases result with
  | ok _ => exact h.pure _
  | error e => exact h.bind (h.log _ _) fun _ => h.pure _

end

end FireflyOverlay
