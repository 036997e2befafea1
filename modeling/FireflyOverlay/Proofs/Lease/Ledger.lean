import FireflyOverlay.Proofs.Lease.Exchanges
import FireflyOverlay.Display.StandIn

/-!
# What is left of the handles that were made

A lease holds one context and one surface.  An acquisition puts new ones in their place, whether or
not there are old ones; nothing else releases those.

* `Ledger`            the handles that are live, the one that is held, and those that were lost:
                      held while another was made;
* `Ledger.Granted`    the end of a live handle is never refused;
* `Traded`            what a holder does to its handles: it only ends what it holds.  Then `live` is
                      `held` and `lost` (`Ledger.live_of_traded`);
* `LeaseOp`, `playOps`   operations of a lease in any order, and a release in the end;
* `live_playOps`      what is live in the end is what was lost.
-/

namespace FireflyOverlay

/-! ## a ledger of handles -/

/-- A handle is made, or its end is asked for. -/
inductive Deed where
  | made (handle : Nat)
  | ended (handle : Nat) (done : Bool)
deriving DecidableEq, Repr

structure Ledger where
  live : List Nat
  held : Option Nat
  lost : List Nat
deriving DecidableEq, Repr

namespace Ledger

def empty : Ledger := ⟨[], none, []⟩

def enter (l : Ledger) : Deed → Ledger
  | .made n => ⟨n :: l.live, some n, l.held.toList ++ l.lost⟩
  | .ended n done => ⟨if done then l.live.erase n else l.live, none, l.lost⟩

def after (l : Ledger) (ds : List Deed) : Ledger := ds.foldl enter l

def Granted (l : Ledger) (ds : List Deed) : Prop :=
  ∀ pre n done post, ds = pre ++ .ended n done :: post → n ∈ (l.after pre).live → done = true

theorem after_cons (l : Ledger) (d : Deed) (ds : List Deed) :
    l.after (d :: ds) = (l.enter d).after ds := rfl

theorem granted_nil (l : Ledger) : l.Granted [] := by
  intro pre n done post he
  cases (List.append_eq_nil_iff.mp he.symm).2

theorem granted_cons (l : Ledger) (d : Deed) (ds : List Deed) :
    l.Granted (d :: ds) ↔
      (∀ n done, d = .ended n done → n ∈ l.live → done = true) ∧ (l.enter d).Granted ds := by
  constructor
  · intro h
    refine ⟨fun n done hd => h [] n done ds (by rw [hd]; rfl), fun pre n done post he => ?_⟩
    exact h (d :: pre) n done post (congrArg (d :: ·) he)
  · rintro ⟨hd, h⟩ pre n done post he
    cases pre with
    | nil => exact hd n done (List.cons.inj he).1
    | cons _ pre =>
      obtain ⟨rfl, ht⟩ := List.cons.inj he
      exact h pre n done post ht

end Ledger

theorem Ledger.granted_append (l : Ledger) (ds es : List Deed) :
    l.Granted (ds ++ es) ↔ l.Granted ds ∧ (l.after ds).Granted es := by
  induction ds generalizing l with
  | nil => exact (and_iff_right l.granted_nil).symm
  | cons d ds ih =>
    rw [List.cons_append, granted_cons, ih, granted_cons, and_assoc]
    rfl

/-- What is held is live, and nothing else is. -/
def Ledger.holding (held : Option Nat) : Ledger := ⟨held.toList, held, []⟩

/-- From what is held at first to what is held at last. -/
inductive Traded : Option Nat → List Deed → Option Nat → Prop
  | nothing {held} : Traded held [] held
  | made {held n ds held'} (rest : Traded (some n) ds held') : Traded held (.made n :: ds) held'
  | ended {n done ds held'} (rest : Traded none ds held') :
    Traded (some n) (.ended n done :: ds) held'

theorem Traded.append {a b c : Option Nat} {ds es : List Deed} (h : Traded a ds b)
    (h' : Traded b es c) : Traded a (ds ++ es) c := by
  induction h with
  | nothing => exact h'
  | made _ ih => exact .made (ih h')
  | ended _ ih => exact .ended (ih h')

theorem Ledger.live_of_traded {held held' : Option Nat} {ds : List Deed} (h : Traded held ds held')
    {l : Ledger} (hl : l.held = held) (hg : l.Granted ds) (hi : l.live = l.held.toList ++ l.lost) :
    (l.after ds).held = held' ∧
      (l.after ds).live = (l.after ds).held.toList ++ (l.after ds).lost := by
  induction h generalizing l with
  | nothing => exact ⟨hl, hi⟩
  | @made held n ds held' _ ih =>
    refine ih (l := l.enter (.made n)) rfl ((l.granted_cons _ _).mp hg).2 ?_
    exact congrArg (n :: ·) hi
  | @ended n done ds held' _ ih =>
    rw [hl] at hi
    have hn : n ∈ l.live := by rw [hi]; exact List.mem_cons_self
    obtain ⟨hd, hg⟩ := (l.granted_cons _ _).mp hg
    refine ih (l := l.enter (.ended n done)) rfl hg ?_
    show (if done then l.live.erase n else l.live) = [] ++ l.lost
    rw [if_pos (hd n done rfl hn), hi]
    exact List.erase_cons_head ..

/-- Where no handle is made, none is lost. -/
theorem Traded.after_holding {held held' : Option Nat} {ds : List Deed} (h : Traded held ds held')
    (hm : ∀ n, .made n ∉ ds) (hg : (Ledger.holding held).Granted ds) :
    (Ledger.holding held).after ds = Ledger.holding held' := by
  induction h with
  | nothing => rfl
  | @made _ n => exact absurd List.mem_cons_self (hm n)
  | @ended n done ds held' _ ih =>
    obtain ⟨hd, hg⟩ := (Ledger.granted_cons _ _ _).mp hg
    obtain rfl : done = true := hd n done rfl List.mem_cons_self
    have hn : (Ledger.holding (some n)).enter (.ended n true) = .holding none := by
      simp [Ledger.holding, Ledger.enter]
    rw [hn] at hg
    rw [Ledger.after_cons, hn]
    exact ih (fun m hm' => hm m (List.mem_cons_of_mem _ hm')) hg

/-- A handle is lost exactly where another is made while it is held. -/
theorem Ledger.lost_eq_nil_iff (l : Ledger) (ds : List Deed) :
    (l.after ds).lost = [] ↔
      l.lost = [] ∧ ∀ pre n post, ds = pre ++ .made n :: post → (l.after pre).held = none := by
  induction ds generalizing l with
  | nil =>
    refine ⟨fun h => ⟨h, fun pre n post he => ?_⟩, fun h => h.1⟩
    cases (List.append_eq_nil_iff.mp he.symm).2
  | cons d ds ih =>
    rw [after_cons, ih]
    constructor
    · rintro ⟨h, hd⟩
      have hl : l.lost = [] := by
        cases d with
        | made n => exact (List.append_eq_nil_iff.mp h).2
        | ended n done => exact h
      refine ⟨hl, fun pre n post he => ?_⟩
      cases pre with
      | nil =>
        obtain ⟨rfl, -⟩ := List.cons.inj he
        exact Option.toList_eq_nil_iff.mp (List.append_eq_nil_iff.mp h).1
      | cons _ pre =>
        obtain ⟨rfl, ht⟩ := List.cons.inj he
        exact hd pre n post ht
    · rintro ⟨h, hd⟩
      refine ⟨?_, fun pre n post he => hd (d :: pre) n post (congrArg (d :: ·) he)⟩
      cases d with
      | made n =>
        show l.held.toList ++ l.lost = []
        rw [show l.held = none from hd [] n ds rfl, h]
        rfl
      | ended n done => exact h

/-! ## the handles of a lease -/

inductive HandleKind where
  | context
  | surface
deriving DecidableEq, Repr

variable {α σ : Type}

namespace HandleKind

def held : HandleKind → Lease → Option Nat
  | .context => Lease.context
  | .surface => Lease.surface

def deed : HandleKind → Exchange α → Option Deed
  | .context, ⟨.createContext _ _, some n⟩ => some (.made n)
  | .context, ⟨.destroyContext _ n, done⟩ => some (.ended n done)
  | .surface, ⟨.createSurface _ _ _, some n⟩ => some (.made n)
  | .surface, ⟨.destroySurface _ n, done⟩ => some (.ended n done)
  | _, _ => none

def deeds (kind : HandleKind) (es : List (Event α)) : List Deed :=
  (exchanges es).filterMap kind.deed

/-- All that happened to the handles of a kind. -/
def ledger (kind : HandleKind) (es : List (Event α)) : Ledger := Ledger.empty.after (kind.deeds es)

theorem deeds_append (kind : HandleKind) (es fs : List (Event α)) :
    kind.deeds (es ++ fs) = kind.deeds es ++ kind.deeds fs := by
  rw [deeds, exchanges_append, List.filterMap_append, deeds, deeds]

theorem deed_query (kind : HandleKind) {x : Exchange α} (h : x.call.isQuery = true) :
    kind.deed x = none := by
  obtain ⟨call, reply⟩ := x
  cases call <;> cases h <;> cases kind <;> rfl

theorem deeds_acts (kind : HandleKind) (es : List (Event α)) :
    kind.deeds es = (acts es).filterMap kind.deed := by
  unfold deeds acts
  generalize exchanges es = xs
  induction xs with
  | nil => rfl
  | cons x xs ih =>
    cases h : x.call.isQuery with
    | true =>
      rw [List.filterMap_cons_none (kind.deed_query h), ih, List.filter_cons_of_neg (by simp [h])]
    | false =>
      rw [List.filter_cons_of_pos (by simp [h]), List.filterMap_cons, List.filterMap_cons, ih]

end HandleKind

theorem Refusal.deeds (kind : HandleKind) {xs : List (Exchange α)} {e : DisplayError}
    (h : Refusal xs e) : xs.filterMap kind.deed = [] := by
  cases h <;> cases kind <;> rfl

/-- There are six steps. -/
theorem Handles.take_steps (h : Handles) (w : WindowId) (k : Nat) :
    (h.steps w : List (Exchange α)).take (k + 6) = h.steps w :=
  List.take_of_length_le (Nat.le_add_left 6 k)

theorem Handles.hold_steps (h : Handles) (k : Nat) (l : Lease) :
    h.hold (k + 6) l = h.hold 6 l := by simp [Handles.hold]

theorem Handles.traded_take (h : Handles) (w : WindowId) (l : Lease) (kind : HandleKind) (k : Nat) :
    Traded (kind.held l) (((h.steps w).take k : List (Exchange α)).filterMap kind.deed)
      (kind.held (h.hold k l)) := by
  match k with
  | 0 | 1 | 2 | 3 => cases kind <;> exact .nothing
  | 4 => cases kind <;> first | exact .nothing | exact .made .nothing
  | 5 => cases kind <;> exact .made .nothing
  | k + 6 =>
    rw [h.take_steps w k, h.hold_steps k l]
    cases kind <;> exact .made .nothing

/-- The first steps make what they put into an empty lease. -/
theorem Handles.deeds_take (h : Handles) (w : WindowId) (kind : HandleKind) (k : Nat) :
    ((h.steps w).take k : List (Exchange α)).filterMap kind.deed =
      ((kind.held (h.hold k .empty)).map Deed.made).toList := by
  match k with
  | 0 | 1 | 2 | 3 | 4 | 5 => cases kind <;> rfl
  | k + 6 =>
    rw [h.take_steps w k, h.hold_steps k .empty]
    cases kind <;> rfl

theorem Acquisition.traded {w : WindowId} {l l' : Lease} {xs : List (Exchange α)}
    {r : Except DisplayError Unit} (h : Acquisition w l xs r l') (kind : HandleKind) :
    Traded (kind.held l) (xs.filterMap kind.deed) (kind.held l') := by
  cases h with
  | complete h => exact h.traded_take w l kind 6
  | refused h k x ys _ _ hr =>
    rw [List.filterMap_append, hr.deeds, List.append_nil]
    exact h.traded_take w l kind k

theorem Asked.deeds (kind : HandleKind) {b : Binding} {xs : List (Exchange α)} {r : Bool}
    (h : Asked b xs r) : xs.filterMap kind.deed = [] := by
  cases h <;> cases kind <;> rfl

theorem Ensured.deeds (kind : HandleKind) {d : DisplayId} {b : Binding} {xs : List (Exchange α)}
    {r : Except DisplayError Unit} (h : Ensured d b xs r) : xs.filterMap kind.deed = [] := by
  cases h with
  | current ha => exact ha.deeds kind
  | rebound ha | lost ha => rw [List.filterMap_append, ha.deeds kind]; cases kind <;> rfl

theorem Presented.deeds (kind : HandleKind) {d : DisplayId} {t : SurfaceId}
    {xs : List (Exchange α)} {r : Except DisplayError Unit} (h : Presented d t xs r) :
    xs.filterMap kind.deed = [] := by
  cases h <;> cases kind <;> rfl

/-- Without a display there is nothing to release. -/
def Lease.Grounded (l : Lease) : Prop := l.display = none → l.context = none ∧ l.surface = none

theorem exists_of_map_call {xs : List (Exchange α)} {c : Call α} {cs : List (Call α)}
    (h : xs.map Exchange.call = c :: cs) :
    ∃ v ys, xs = ⟨c, v⟩ :: ys ∧ ys.map Exchange.call = cs := by
  obtain ⟨x, ys, rfl, rfl, ht⟩ := List.map_eq_cons_iff.mp h
  exact ⟨x.reply, ys, rfl, ht⟩

theorem Lease.traded_released {l : Lease} {xs : List (Exchange α)}
    (h : xs.map Exchange.call = l.releaseCalls) (kind : HandleKind) :
    Traded (kind.held l) (xs.filterMap kind.deed) (kind.held l.released) := by
  obtain ⟨_ | d, config, context, surface⟩ := l
  · obtain rfl := List.map_eq_nil_iff.mp h
    exact .nothing
  · obtain ⟨_, ys, rfl, h₁⟩ := exists_of_map_call h
    rcases context with _ | n <;> rcases surface with _ | m
    · obtain rfl := List.map_eq_nil_iff.mp h₁
      cases kind <;> exact .nothing
    · obtain ⟨_, zs, rfl, h₂⟩ := exists_of_map_call h₁
      obtain rfl := List.map_eq_nil_iff.mp h₂
      cases kind <;> first | exact .nothing | exact .ended .nothing
    · obtain ⟨_, zs, rfl, h₂⟩ := exists_of_map_call h₁
      obtain rfl := List.map_eq_nil_iff.mp h₂
      cases kind <;> first | exact .nothing | exact .ended .nothing
    · obtain ⟨_, zs, rfl, h₂⟩ := exists_of_map_call h₁
      obtain ⟨_, _, rfl, h₃⟩ := exists_of_map_call h₂
      obtain rfl := List.map_eq_nil_iff.mp h₃
      cases kind <;> exact .ended .nothing

/-! ## operations in any order -/

inductive LeaseOp where
  | acquire (window : WindowId)
  | ensureCurrent
  | present
  | release
deriving DecidableEq, Repr

section
variable [Display α σ]

def LeaseOp.play : LeaseOp → Play α σ Unit
  | .acquire window => do let _ ← FireflyOverlay.acquire window
  | .ensureCurrent => do let _ ← FireflyOverlay.ensureCurrent
  | .present => do let _ ← FireflyOverlay.present
  | .release => FireflyOverlay.release

/-- The operations, and then the lease is given up. -/
def playOps : List LeaseOp → Play α σ Unit
  | [] => release
  | op :: ops => do
    op.play
    playOps ops

theorem Acquisition.grounded {w : WindowId} {l l' : Lease} {xs : List (Exchange α)}
    {r : Except DisplayError Unit} (h : Acquisition w l xs r l') (hl : l.Grounded) :
    l'.Grounded := by
  cases h with
  | complete h => exact fun hn => by cases hn
  | refused h k x ys _ _ hr =>
    cases k with
    | zero => exact hl
    | succ k => exact fun hn => by simp [Handles.hold] at hn

theorem Lease.grounded_released {l : Lease} (hl : l.Grounded) : l.released.Grounded := by
  unfold Lease.released
  split
  · exact fun _ => ⟨rfl, rfl⟩
  · exact hl

/-- A released lease holds no handle. -/
theorem Lease.held_released {l : Lease} (hl : l.Grounded) (kind : HandleKind) :
    kind.held l.released = none := by
  unfold Lease.released
  cases hd : l.display with
  | none =>
    cases kind with
    | context => exact (hl hd).1
    | surface => exact (hl hd).2
  | some d => cases kind <;> rfl

/-- What one operation does to the handles. -/
def Trades (m : Play α σ Unit) (s : Session α σ) : Prop :=
  m.Returns s fun _ es s' => (s.lease.Grounded → s'.lease.Grounded) ∧
    ∀ kind : HandleKind, Traded (kind.held s.lease) (kind.deeds es) (kind.held s'.lease)

theorem trades_discard {β : Type} {m : Play α σ β} {s : Session α σ}
    (h : m.Returns s fun _ es s' => (s.lease.Grounded → s'.lease.Grounded) ∧
      ∀ kind : HandleKind, Traded (kind.held s.lease) (kind.deeds es) (kind.held s'.lease)) :
    Trades (do let _ ← m) s :=
  h.bind fun _ es s' hq => .pure (by rw [List.append_nil]; exact hq)

/-- An operation that leaves the lease alone and makes and ends nothing. -/
theorem trades_nothing {β : Type} {m : Play α σ β} {s : Session α σ}
    (h : m.Returns s fun _ es s' => s'.lease = s.lease ∧ ∀ kind : HandleKind, kind.deeds es = []) :
    Trades (do let _ ← m) s := by
  refine trades_discard (h.mono fun _ es s' _ h => ?_)
  obtain ⟨hl, hd⟩ := h
  rw [hl]
  refine ⟨id, fun kind => ?_⟩
  rw [hd kind]
  exact .nothing

theorem trades_playOp (op : LeaseOp) (s : Session α σ) : Trades op.play s := by
  cases op with
  | acquire w =>
    exact trades_discard ((returns_acquire w s).mono fun _ es s' _ h =>
      ⟨h.grounded, fun kind => h.traded kind⟩)
  | ensureCurrent =>
    refine trades_nothing ((returns_ensureCurrent s).mono fun _ es s' _ h => ⟨h.1, fun kind => ?_⟩)
    obtain ⟨-, h⟩ := h
    unfold HandleKind.deeds
    split at h
    · rw [h.1]; rfl
    · exact h.2.deeds kind
  | present =>
    refine trades_nothing ((returns_present s).mono fun _ es s' _ h => ⟨h.1, fun kind => ?_⟩)
    obtain ⟨-, h⟩ := h
    unfold HandleKind.deeds
    split at h
    · rw [h.1]; rfl
    · exact h.deeds kind
  | release =>
    refine (returns_release s).mono fun _ es s' _ h => ?_
    rw [h.2]
    refine ⟨Lease.grounded_released, fun kind => ?_⟩
    rw [kind.deeds_acts]
    exact Lease.traded_released h.1.calls kind

theorem returns_playOps (ops : List LeaseOp) (s : Session α σ) (hg : s.lease.Grounded) :
    (playOps ops).Returns s fun _ es _ =>
      ∀ kind : HandleKind, Traded (kind.held s.lease) (kind.deeds es) none := by
  induction ops generalizing s with
  | nil =>
    refine (returns_release s).mono fun _ es s' _ h kind => ?_
    have hr := Lease.traded_released h.1.calls kind
    rw [Lease.held_released hg kind] at hr
    rw [kind.deeds_acts]
    exact hr
  | cons op ops ih =>
    refine (trades_playOp op s).bind fun _ es s' h => ?_
    refine (ih s' (h.1 hg)).mono fun _ fs _ _ h' kind => ?_
    rw [kind.deeds_append]
    exact (h.2 kind).append (h' kind)

/-- All that happens from a fresh session on. -/
def opsTrace (α : Type) [Display α σ] (ops : List LeaseOp) (display : σ) : List (Event α) :=
  ((playOps ops).outcome (.ofDisplay display)).2.trace.toList

/-- **What is live in the end is what was lost.**  On a display that grants the end of every live
handle, operations in any order leave those contexts and surfaces live that were held while an
acquisition made another.  So none leaks exactly where none was held when another was made. -/
theorem live_playOps (ops : List LeaseOp) (display : σ)
    (hg : ∀ kind : HandleKind, Ledger.empty.Granted (kind.deeds (opsTrace α ops display))) :
    Crashed (opsTrace α ops display) ∨ ∀ kind : HandleKind,
      (kind.ledger (opsTrace α ops display)).live = (kind.ledger (opsTrace α ops display)).lost ∧
      ((kind.ledger (opsTrace α ops display)).live = [] ↔
        ∀ pre n post, kind.deeds (opsTrace α ops display) = pre ++ .made n :: post →
          (Ledger.empty.after pre).held = none) := by
  have hr := (returns_playOps ops (.ofDisplay (α := α) display) fun _ => ⟨rfl, rfl⟩).of_empty rfl
  rcases hr with h | ⟨_, -, ht⟩
  · exact .inl h
  · refine .inr fun kind => ?_
    have hk : kind.held .empty = none := by cases kind <;> rfl
    obtain ⟨h1, h2⟩ := Ledger.live_of_traded (ht kind) (l := .empty) hk.symm (hg kind) rfl
    rw [h1] at h2
    have hl : (kind.ledger (opsTrace α ops display)).live = (kind.ledger _).lost := h2
    refine ⟨hl, ?_⟩
    rw [hl]
    exact (Ledger.lost_eq_nil_iff _ _).trans (and_iff_right rfl)

/-- Two acquisitions with no release between them. -/
theorem deeds_twice (kind : HandleKind) :
    kind.deeds (opsTrace Unit [.acquire 0, .acquire 0] StandIn.initial) =
      match kind with
      | .context => [.made 3, .made 7, .ended 7 true]
      | .surface => [.made 4, .made 8, .ended 8 true] := by
  cases kind <;> decide +kernel

theorem live_twice :
    (∀ kind : HandleKind, Ledger.empty.Granted
      (kind.deeds (opsTrace Unit [.acquire 0, .acquire 0] StandIn.initial))) ∧
    (HandleKind.context.ledger (opsTrace Unit [.acquire 0, .acquire 0] StandIn.initial)).live
      = [3] ∧
    (HandleKind.surface.ledger (opsTrace Unit [.acquire 0, .acquire 0] StandIn.initial)).live
      = [4] := by
  have hg : ∀ kind : HandleKind, Ledger.empty.Granted
      (kind.deeds (opsTrace Unit [.acquire 0, .acquire 0] StandIn.initial)) := by
    intro kind
    rw [deeds_twice]
    cases kind <;> simp [Ledger.granted_cons, Ledger.granted_nil]
  have hc : ¬ Crashed (opsTrace Unit [.acquire 0, .acquire 0] StandIn.initial) := by
    rw [crashed_iff]
    decide +kernel
  have hl := (live_playOps _ _ hg).resolve_left hc
  refine ⟨hg, ?_, ?_⟩
  · rw [(hl .context).1, HandleKind.ledger, deeds_twice]
    rfl
  · rw [(hl .surface).1, HandleKind.ledger, deeds_twice]
    rfl

end

end FireflyOverlay
