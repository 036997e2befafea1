import FireflyOverlay.Session

/-!
# What happens in a session

A stretch of a trace is a list of events.  It says all there is to say about what the display and
the control went through meanwhile; only the lease is kept apart from it.

* `Exchange`           a call with its answer, `exchanges` those of a stretch, in order, and `acts`
                       those that are no questions;
* `Crashed`            one of the calls crashed;
* `StartsWith c es`    the first event is the answer to `c`;
* `Control.after`      the control after a stretch: requests arrived, states were reached;
* `Answers d es d'`    the display answers the calls of `es` as they were answered, and goes from
                       `d` to `d'`; `Replays` is the same for exchanges;
* `Session.Plays`      `s.Plays es s'`: from `s` the stretch `es` leads to `s'`.  Stretches can be
                       put together (`Session.Plays.trans`).
-/

namespace FireflyOverlay

variable {α σ : Type}

/-! ## views of a stretch -/

structure Exchange (α : Type) where
  call : Call α
  reply : call.Reply

def Event.exchange? : Event α → Option (Exchange α)
  | .call c (some reply) => some ⟨c, reply⟩
  | _ => none

def exchanges (es : List (Event α)) : List (Exchange α) := es.filterMap Event.exchange?

def acts (es : List (Event α)) : List (Exchange α) :=
  (exchanges es).filter fun x => !x.call.isQuery

def Crashed (es : List (Event α)) : Prop := ∃ c, Event.call c none ∈ es

def Event.crashes : Event α → Bool
  | .call _ none => true
  | _ => false

def StartsWith (c : Call α) (es : List (Event α)) : Prop :=
  ∃ v rest, es = .call c (some v) :: rest

def Control.hear (c : Control) : Event α → Control
  | .request r => c.request r
  | .state l => c.reach l
  | .call _ _ | .log _ => c

def Control.after (c : Control) (es : List (Event α)) : Control := es.foldl Control.hear c

theorem exchanges_nil : exchanges ([] : List (Event α)) = [] := rfl
theorem exchanges_append (es fs : List (Event α)) :
    exchanges (es ++ fs) = exchanges es ++ exchanges fs := List.filterMap_append

theorem exchanges_logs (rs : List LogRecord) :
    exchanges (rs.map (Event.log (α := α))) = [] := by
  induction rs with
  | nil => rfl
  | cons r rs ih => exact ih

theorem acts_append (es fs : List (Event α)) : acts (es ++ fs) = acts es ++ acts fs := by
  rw [acts, exchanges_append, List.filter_append, acts, acts]

theorem acts_of_exchanges {es : List (Event α)} {xs : List (Exchange α)}
    (h : exchanges es = xs) : acts es = xs.filter fun x => !x.call.isQuery := by rw [acts, h]

theorem crashed_iff (es : List (Event α)) : Crashed es ↔ es.any Event.crashes = true := by
  rw [List.any_eq_true]
  constructor
  · rintro ⟨c, hc⟩
    exact ⟨_, hc, rfl⟩
  · rintro ⟨e, he, h⟩
    match e, he, h with
    | .call c none, he, _ => exact ⟨c, he⟩

theorem Crashed.append_left {es fs : List (Event α)} (h : Crashed es) : Crashed (es ++ fs) := by
  obtain ⟨c, hc⟩ := h
  exact ⟨c, List.mem_append_left _ hc⟩

theorem Crashed.append_right {es fs : List (Event α)} (h : Crashed fs) : Crashed (es ++ fs) := by
  obtain ⟨c, hc⟩ := h
  exact ⟨c, List.mem_append_right _ hc⟩

theorem StartsWith.append {c : Call α} {es : List (Event α)} (h : StartsWith c es)
    (fs : List (Event α)) : StartsWith c (es ++ fs) := by
  obtain ⟨v, rest, rfl⟩ := h
  exact ⟨v, rest ++ fs, rfl⟩

theorem Control.after_nil (c : Control) : c.after ([] : List (Event α)) = c := rfl
theorem Control.after_append (c : Control) (es fs : List (Event α)) :
    c.after (es ++ fs) = (c.after es).after fs := List.foldl_append

theorem Control.after_logs (c : Control) (rs : List LogRecord) :
    c.after (rs.map (Event.log (α := α))) = c := by
  induction rs with
  | nil => rfl
  | cons r rs ih => exact ih

/-- A stop request stays. -/
theorem Control.stop_after {c : Control} (h : c.requests.stop = true) (es : List (Event α)) :
    (c.after es).requests.stop = true := by
  induction es generalizing c with
  | nil => exact h
  | cons e es ih =>
    refine ih ?_
    cases e with
    | request r => exact (congrArg (· || r.stop) h).trans (Bool.true_or _)
    | call _ _ => exact h
    | log _ => exact h
    | state _ => exact h

/-! ## the display along a stretch -/

section
variable [Display α σ]

def Answers : σ → List (Event α) → σ → Prop
  | d, [], d' => d' = d
  | d, .call c reply :: es, d' =>
    (Display.step c d).1.reply = reply ∧ Answers (Display.step c d).2 es d'
  | d, .log _ :: es, d' | d, .request _ :: es, d' | d, .state _ :: es, d' => Answers d es d'

theorem Answers.append {d d' d'' : σ} {es fs : List (Event α)} (h : Answers d es d')
    (h' : Answers d' fs d'') : Answers d (es ++ fs) d'' := by
  induction es generalizing d with
  | nil => rw [show d' = d from h] at h'; exact h'
  | cons e es ih =>
    cases e with
    | call c reply => exact ⟨h.1, ih h.2⟩
    | log r => exact ih h
    | request r => exact ih h
    | state l => exact ih h

theorem answers_logs (d : σ) (rs : List LogRecord) :
    Answers d (rs.map (Event.log (α := α))) d := by
  induction rs with
  | nil => rfl
  | cons r rs ih => exact ih

/-- The display gives the answers of `xs`, one after the other. -/
def Replays : σ → List (Exchange α) → σ → Prop
  | d, [], d' => d' = d
  | d, x :: xs, d' =>
    (Display.step x.call d).1.reply = some x.reply ∧ Replays (Display.step x.call d).2 xs d'

theorem Answers.replays {d d' : σ} {es : List (Event α)} (h : Answers d es d')
    (hc : ¬ Crashed es) : Replays d (exchanges es) d' := by
  induction es generalizing d with
  | nil => exact h
  | cons e es ih =>
    have hc' : ¬ Crashed es := fun ⟨c, hm⟩ => hc ⟨c, List.mem_cons_of_mem e hm⟩
    cases e with
    | call c reply =>
      cases reply with
      | none => exact absurd ⟨c, List.mem_cons_self⟩ hc
      | some v => exact ⟨h.1, ih h.2 hc'⟩
    | log r => exact ih h hc'
    | request r => exact ih h hc'
    | state l => exact ih h hc'

theorem Answers.not_crashed (ht : ∀ (c : Call α) (d : σ), (Display.step c d).1.reply.isSome = true)
    {d d' : σ} {es : List (Event α)} (h : Answers d es d') : ¬ Crashed es := by
  induction es generalizing d with
  | nil => exact fun ⟨c, hc⟩ => by cases hc
  | cons e es ih =>
    rintro ⟨c, hc⟩
    cases e with
    | call c' reply =>
      rcases List.mem_cons.mp hc with hc | hc
      · cases hc
        have hr := ht c d
        rw [h.1] at hr
        cases hr
      · exact ih h.2 ⟨c, hc⟩
    | log r | request r | state l =>
      rcases List.mem_cons.mp hc with hc | hc
      · cases hc
      · exact ih h ⟨c, hc⟩

theorem replays_append {d d'' : σ} {xs ys : List (Exchange α)} :
    Replays d (xs ++ ys) d'' ↔ ∃ d', Replays d xs d' ∧ Replays d' ys d'' := by
  induction xs generalizing d with
  | nil =>
    refine ⟨fun h => ⟨d, rfl, h⟩, fun ⟨d', h, h'⟩ => ?_⟩
    rw [show d' = d from h] at h'
    exact h'
  | cons x xs ih =>
    refine ⟨fun h => ?_, fun ⟨d', h, h'⟩ => ⟨h.1, ih.mpr ⟨d', h.2, h'⟩⟩⟩
    obtain ⟨d', h1, h2⟩ := ih.mp h.2
    exact ⟨d', ⟨h.1, h1⟩, h2⟩

theorem Replays.answer {d t d' : σ} {c : Call α} {u v : c.Reply} {xs : List (Exchange α)}
    (h : Replays d (⟨c, v⟩ :: xs) d') (hc : Display.step c d = (.answer u, t)) :
    v = u ∧ Replays t xs d' := by
  obtain ⟨h1, h2⟩ := h
  dsimp only at h1 h2
  rw [hc] at h1 h2
  exact ⟨(Option.some.inj h1).symm, h2⟩

/-! ## sessions along a stretch -/

structure Session.Plays (s : Session α σ) (es : List (Event α)) (s' : Session α σ) : Prop where
  trace : s'.trace.toList = s.trace.toList ++ es
  control : s'.control = s.control.after es
  display : Answers s.display es s'.display

namespace Session.Plays

theorem refl (s : Session α σ) : s.Plays [] s := ⟨by simp, rfl, rfl⟩

theorem trans {s s' s'' : Session α σ} {es fs : List (Event α)} (h : s.Plays es s')
    (h' : s'.Plays fs s'') : s.Plays (es ++ fs) s'' where
  trace := by rw [h'.trace, h.trace, List.append_assoc]
  control := by rw [h'.control, h.control, Control.after_append]
  display := h.display.append h'.display

end Session.Plays

/-! ## what the primitive steps add -/

/-- The requests of a reaction, as events. -/
def requestEvents (r : Requests) : List (Event α) := if r = .none then [] else [.request r]

theorem Control.after_requestEvents (c : Control) (r : Requests) :
    c.after (requestEvents (α := α) r) = c.request r := by
  unfold requestEvents
  split
  · next h =>
    rw [h, Control.after_nil, Control.request, Requests.join, Requests.none]
    simp
  · rfl

theorem exchanges_requestEvents (r : Requests) :
    exchanges (requestEvents (α := α) r) = [] := by
  unfold requestEvents
  split <;> rfl

/-- Requests exchange nothing. -/
theorem exchanges_requested (r : Requests) (es : List (Event α)) :
    exchanges (requestEvents r ++ es) = exchanges es := by
  rw [exchanges_append, exchanges_requestEvents, List.nil_append]

theorem Session.plays_receive (s : Session α σ) (r : Requests) :
    s.Plays (requestEvents r) (s.receive r) := by
  unfold requestEvents Session.receive
  split
  · exact .refl s
  · exact ⟨by simp [Session.record], rfl, rfl⟩

omit [Display α σ] in
theorem Session.lease_receive (s : Session α σ) (r : Requests) :
    (s.receive r).lease = s.lease := by
  unfold Session.receive
  split <;> rfl

end
end FireflyOverlay
