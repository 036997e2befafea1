import FireflyOverlay.Proofs.Canvas.Reachable

/-!
# Runs of a canvas

A run is a list of actions: calls with any arguments, and new windows in between.

* `Canvas.run`         what the actions make of a canvas; what the runs of a fresh canvas reach is
                       `Reachable` (`Reachable.run`);
* `Canvas.seen f`      what `f` sees of each call with its answer, in the state in which the call
                       finds the canvas.  What is seen of two runs one after the other is put
                       together (`seen_append`);
* `Canvas.answers`     the calls of a run with their answers;
* `run_induction`      what holds at first, and is kept by new windows and by every change, holds
                       along every run.
-/

namespace FireflyOverlay
namespace Canvas

variable {α β : Type}

inductive Action (α : Type) where
  | window (width height : Nat)
  | call (c : Call α)

variable [Scalar α] [Root α]

def act (s : Canvas α) : Action α → Canvas α
  | .window width height => s.addWindow width height
  | .call c => (step c s).2

def run (s : Canvas α) (as : List (Action α)) : Canvas α := as.foldl act s

/-- A call with its answer. -/
def answer? (s : Canvas α) : Action α → Option (Exchange α)
  | .window _ _ => none
  | .call c => (step c s).1.reply.map (Exchange.mk c)

def seen (f : Canvas α → Exchange α → Option β) (s : Canvas α) : List (Action α) → List β
  | [] => []
  | a :: as => ((s.answer? a).bind (f s)).toList ++ seen f (s.act a) as

def answers (s : Canvas α) (as : List (Action α)) : List (Exchange α) := seen (fun _ => some) s as

theorem run_append (s : Canvas α) (as bs : List (Action α)) :
    s.run (as ++ bs) = (s.run as).run bs := List.foldl_append

theorem seen_append (f : Canvas α → Exchange α → Option β) (s : Canvas α)
    (as bs : List (Action α)) : seen f s (as ++ bs) = seen f s as ++ seen f (s.run as) bs := by
  induction as generalizing s with
  | nil => rfl
  | cons a as ih =>
    show ((s.answer? a).bind (f s)).toList ++ seen f (s.act a) (as ++ bs)
      = ((s.answer? a).bind (f s)).toList ++ _ ++ _
    rw [ih, List.append_assoc]
    rfl

theorem seen_window (f : Canvas α → Exchange α → Option β) (s : Canvas α) (as : List (Action α))
    (width height : Nat) : seen f s (as ++ [.window width height]) = seen f s as := by
  rw [seen_append]
  exact List.append_nil _

theorem seen_cons_call (f : Canvas α → Exchange α → Option β) {s : Canvas α} {c : Call α}
    {r : c.Reply} (h : (step c s).1.reply = some r) (as : List (Action α)) :
    seen f s (.call c :: as) = (f s ⟨c, r⟩).toList ++ seen f (step c s).2 as := by
  have ha : s.answer? (.call c) = some ⟨c, r⟩ := by
    show (step c s).1.reply.map (Exchange.mk c) = _
    rw [h]
    rfl
  show ((s.answer? (.call c)).bind (f s)).toList ++ _ = _
  rw [ha]
  rfl

theorem seen_call (f : Canvas α → Exchange α → Option β) {s : Canvas α} {as : List (Action α)}
    {c : Call α} {r : c.Reply} (h : (step c (s.run as)).1.reply = some r) :
    seen f s (as ++ [.call c]) = seen f s as ++ (f (s.run as) ⟨c, r⟩).toList := by
  rw [seen_append, seen_cons_call f h]
  exact congrArg (seen f s as ++ ·) (List.append_nil _)

/-- What is seen is seen of some call, in the state that the actions before it lead to. -/
theorem mem_seen {f : Canvas α → Exchange α → Option β} {s : Canvas α} {as : List (Action α)}
    {b : β} :
    b ∈ seen f s as ↔ ∃ pre c r post, as = pre ++ .call c :: post ∧
      (step c (s.run pre)).1.reply = some r ∧ f (s.run pre) ⟨c, r⟩ = some b := by
  constructor
  · induction as generalizing s with
    | nil => exact nofun
    | cons a as ih =>
      intro h
      rcases List.mem_append.mp h with h | h
      · obtain ⟨x, hx, hb⟩ := Option.bind_eq_some_iff.mp (Option.mem_toList.mp h)
        cases a with
        | window width height => cases hx
        | call c =>
          obtain ⟨r, hr, rfl⟩ := Option.map_eq_some_iff.mp hx
          exact ⟨[], c, r, as, rfl, hr, hb⟩
      · obtain ⟨pre, c, r, post, rfl, hr, hb⟩ := ih h
        exact ⟨a :: pre, c, r, post, rfl, hr, hb⟩
  · rintro ⟨pre, c, r, post, rfl, hr, hb⟩
    rw [seen_append, seen_cons_call f hr, hb]
    exact List.mem_append_right _ List.mem_cons_self

/-- From the front to the back of a run. -/
theorem run_induction {P : List (Action α) → Canvas α → Prop} {s : Canvas α} (start : P [] s)
    (window : ∀ as width height, P as (s.run as) →
      P (as ++ [.window width height]) ((s.run as).addWindow width height))
    (call : ∀ as c r s', (step c (s.run as)).1.reply = some r → Change (s.run as) c r s' →
      P as (s.run as) → P (as ++ [.call c]) s')
    (as : List (Action α)) : P as (s.run as) := by
  have hstep : ∀ pre a, P pre (s.run pre) → P (pre ++ [a]) (s.run (pre ++ [a])) := by
    intro pre a hp
    rw [run_append]
    cases a with
    | window width height => exact window pre width height hp
    | call c =>
      obtain ⟨r, hr, hc⟩ := change_step c (s.run pre)
      exact call pre c r _ hr hc hp
  have hall : ∀ bs pre, P pre (s.run pre) → P (pre ++ bs) (s.run (pre ++ bs)) := by
    intro bs
    induction bs with
    | nil =>
      intro pre hp
      rw [List.append_nil]
      exact hp
    | cons b bs ih =>
      intro pre hp
      rw [List.append_cons]
      exact ih _ (hstep pre b hp)
  exact hall as [] start

theorem Reachable.run {s : Canvas α} (h : s.Reachable) (as : List (Action α)) :
    (s.run as).Reachable := by
  induction as generalizing s with
  | nil => exact h
  | cons a as ih =>
    refine ih ?_
    cases a with
    | window width height => exact .window width height h
    | call c => exact .call c h

end Canvas
end FireflyOverlay
