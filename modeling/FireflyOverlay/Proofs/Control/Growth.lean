import FireflyOverlay.Control
import Mathlib.Order.Lattice
import Mathlib.Order.BoundedOrder.Basic

/-!
# Controls only grow

Requests are joined and states are overtaken, so a control is the join of all that it was told.  In
what order it was told, and how often, leaves no trace.

* `Change`              a request, or a state that is reached;
* `Control.Grows c d`   `d` has every request of `c`, and a state that is no earlier.  This is the
                        order of a join-semilattice whose least element is the initial control;
* `Change.least`        the least control that has been told a change: a change is the join with it
                        (`Control.change_eq_sup`);
* `Control.through`     a control after some changes: the join with all of them
                        (`Control.through_le`), which depends on nothing but which changes there
                        are (`Control.through_eq_of_mem_iff`).
-/

namespace FireflyOverlay

/-! ## states -/

theorem Lifecycle.rank_injective : Function.Injective Lifecycle.rank := by
  intro a b h
  cases a <;> cases b <;> first | rfl | cases h

theorem Lifecycle.rank_later (a b : Lifecycle) : (a.later b).rank = max a.rank b.rank := by
  unfold Lifecycle.later
  split
  · next h => exact (Nat.max_eq_right (Nat.le_of_lt h)).symm
  · next h => exact (Nat.max_eq_left (Nat.le_of_not_lt h)).symm

theorem Lifecycle.later_eq_or (a b : Lifecycle) : a.later b = a ∨ a.later b = b := by
  unfold Lifecycle.later
  split
  · exact .inr rfl
  · exact .inl rfl

/-! ## the order of controls -/

namespace Control

structure Grows (c d : Control) : Prop where
  stop : c.requests.stop = true → d.requests.stop = true
  fadeOut : c.requests.fadeOut = true → d.requests.fadeOut = true
  state : c.state.rank ≤ d.state.rank

theorem Grows.refl (c : Control) : c.Grows c := ⟨id, id, Nat.le_refl _⟩

theorem Grows.trans {c d e : Control} (h : c.Grows d) (h' : d.Grows e) : c.Grows e :=
  ⟨h'.stop ∘ h.stop, h'.fadeOut ∘ h.fadeOut, Nat.le_trans h.state h'.state⟩

theorem Grows.antisymm {c d : Control} (h : c.Grows d) (h' : d.Grows c) : c = d := by
  obtain ⟨⟨stop, fadeOut⟩, state⟩ := c
  obtain ⟨⟨stop', fadeOut'⟩, state'⟩ := d
  have hs : stop = stop' := Bool.eq_iff_iff.mpr ⟨h.stop, h'.stop⟩
  have hf : fadeOut = fadeOut' := Bool.eq_iff_iff.mpr ⟨h.fadeOut, h'.fadeOut⟩
  have hl : state = state' := Lifecycle.rank_injective (Nat.le_antisymm h.state h'.state)
  rw [hs, hf, hl]

def join (c d : Control) : Control := ⟨c.requests.join d.requests, c.state.later d.state⟩

instance : SemilatticeSup Control where
  le := Grows
  le_refl := Grows.refl
  le_trans _ _ _ := Grows.trans
  le_antisymm _ _ := Grows.antisymm
  sup := join
  le_sup_left c d :=
    ⟨fun h => Bool.or_eq_true_iff.mpr (.inl h), fun h => Bool.or_eq_true_iff.mpr (.inl h),
      Lifecycle.rank_later c.state d.state ▸ Nat.le_max_left _ _⟩
  le_sup_right c d :=
    ⟨fun h => Bool.or_eq_true_iff.mpr (.inr h), fun h => Bool.or_eq_true_iff.mpr (.inr h),
      Lifecycle.rank_later c.state d.state ▸ Nat.le_max_right _ _⟩
  sup_le c d e hc hd :=
    ⟨fun h => (Bool.or_eq_true_iff.mp h).elim hc.stop hd.stop,
      fun h => (Bool.or_eq_true_iff.mp h).elim hc.fadeOut hd.fadeOut,
      Lifecycle.rank_later c.state d.state ▸ Nat.max_le.mpr ⟨hc.state, hd.state⟩⟩

instance : OrderBot Control where
  bot := initial
  bot_le _ := ⟨nofun, nofun, Nat.zero_le _⟩

end Control

/-! ## changes -/

/-- What can be done through a control. -/
inductive Change where
  | request (r : Requests)
  | reach (state : Lifecycle)
deriving DecidableEq, Repr

namespace Change

def least : Change → Control
  | .request r => ⟨r, .created⟩
  | .reach state => ⟨.none, state⟩

/-- A request that has the flag `f` up. -/
def raises (f : Requests → Bool) : Change → Bool
  | .request r => f r
  | .reach _ => false

theorem any_raises {f : Requests → Bool} {xs : List Change} :
    xs.any (raises f) = true ↔ ∃ r, .request r ∈ xs ∧ f r = true := by
  rw [List.any_eq_true]
  constructor
  · rintro ⟨x, hx, h⟩
    cases x with
    | request r => exact ⟨r, hx, h⟩
    | reach l => cases h
  · rintro ⟨r, hr, h⟩
    exact ⟨_, hr, h⟩

end Change

namespace Control

def change (c : Control) : Change → Control
  | .request r => c.request r
  | .reach state => c.reach state

def through (c : Control) (xs : List Change) : Control := xs.foldl change c

theorem through_append (c : Control) (xs ys : List Change) :
    c.through (xs ++ ys) = (c.through xs).through ys := List.foldl_append

theorem change_eq_sup (c : Control) (x : Change) : c.change x = c ⊔ x.least := by
  obtain ⟨⟨stop, fadeOut⟩, state⟩ := c
  cases x with
  | request r =>
    have hl : state.later .created = state := by cases state <;> rfl
    show (⟨_, state⟩ : Control) = ⟨_, state.later .created⟩
    rw [hl]
    rfl
  | reach l =>
    show (⟨⟨stop, fadeOut⟩, _⟩ : Control) = ⟨⟨stop || false, fadeOut || false⟩, _⟩
    rw [Bool.or_false, Bool.or_false]
    rfl

/-- What bounds a control after some changes. -/
theorem through_le {c d : Control} {xs : List Change} :
    c.through xs ≤ d ↔ c ≤ d ∧ ∀ x ∈ xs, x.least ≤ d := by
  induction xs generalizing c with
  | nil => exact ⟨fun h => ⟨h, nofun⟩, fun h => h.1⟩
  | cons x xs ih =>
    show (c.change x).through xs ≤ d ↔ _
    rw [ih, change_eq_sup, sup_le_iff, List.forall_mem_cons, and_assoc]

theorem le_through (c : Control) (xs : List Change) : c ≤ c.through xs :=
  (through_le.mp le_rfl).1

/-- Neither the order nor the number of the changes counts. -/
theorem through_eq_of_mem_iff {c : Control} {xs ys : List Change} (h : ∀ x, x ∈ xs ↔ x ∈ ys) :
    c.through xs = c.through ys := by
  refine eq_of_forall_ge_iff fun d => ?_
  simp only [through_le, h]

/-- A flag is up once a request has it up. -/
theorem flag_through {f : Requests → Bool} (h : ∀ r r', f (r.join r') = (f r || f r'))
    (c : Control) (xs : List Change) :
    f (c.through xs).requests = (f c.requests || xs.any (Change.raises f)) := by
  induction xs generalizing c with
  | nil => exact (Bool.or_false _).symm
  | cons x xs ih =>
    have hx : f (c.change x).requests = (f c.requests || x.raises f) := by
      cases x with
      | request r => exact h _ _
      | reach l => exact (Bool.or_false _).symm
    rw [List.any_cons, ← Bool.or_assoc, ← hx]
    exact ih _

theorem state_through (c : Control) (xs : List Change) :
    (c.through xs).state = c.state ∨ .reach (c.through xs).state ∈ xs := by
  induction xs generalizing c with
  | nil => exact .inl rfl
  | cons x xs ih =>
    rcases ih (c.change x) with h | h
    · cases x with
      | request r => exact .inl h
      | reach l =>
        rcases Lifecycle.later_eq_or c.state l with hl | hl
        · exact .inl (h.trans hl)
        · exact .inr (List.mem_cons.mpr (.inl (congrArg Change.reach (h.trans hl))))
    · exact .inr (List.mem_cons_of_mem x h)

theorem rank_le_through {c : Control} {xs : List Change} {state : Lifecycle}
    (h : .reach state ∈ xs) : state.rank ≤ (c.through xs).state.rank :=
  ((through_le.mp (le_refl (c.through xs))).2 _ h).state

end Control
end FireflyOverlay
