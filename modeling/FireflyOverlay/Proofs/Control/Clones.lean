import FireflyOverlay.Control.Pool
import FireflyOverlay.Proofs.Control.Growth
import Mathlib.Data.List.Induction
import Mathlib.Logic.Relation

/-!
# Clones of controls

Controls are created and cloned, and whoever holds one changes and reads it.  Each of these is a
single step, so that what several threads do is one history, in some order.

* `ControlPool.Action`   one step; `ControlPool.after` the controls after a history;
* `ControlPool.Proper`   every step uses a control that was handed out before it;
* `ControlPool.Kin`      the equivalence that cloning generates; each of its classes goes back to
                         one creation (`existsUnique_root`), and it is the same to be kin and to
                         have one place in the pool (`kin_iff`);
* `ControlPool.heard`    the changes that came to a place; its control is what they make of the
                         initial one (`states_after`);
* `ControlPool.SharingLaws`   what a holder of a control can rely on (`sharingLaws`).
-/

namespace FireflyOverlay
namespace ControlPool

/-! ## histories -/

inductive Action where
  | create
  | clone (i : Nat)
  | change (i : Nat) (x : Change)
deriving DecidableEq, Repr

namespace Action

/-- The control that an action uses. -/
def uses? : Action → Option Nat
  | .create => none
  | .clone i | .change i _ => some i

/-- A control is handed out. -/
def handsOut : Action → Bool
  | .create | .clone _ => true
  | .change _ _ => false

def creates : Action → Bool
  | .create => true
  | .clone _ | .change _ _ => false

end Action

def act (p : ControlPool) : Action → ControlPool
  | .create => p.create
  | .clone i => p.clone i
  | .change i (.request r) => p.request i r
  | .change i (.reach state) => p.reach i state

theorem act_change (p : ControlPool) (i : Nat) (x : Change) :
    p.act (.change i x) = p.update i (·.change x) := by
  cases x <;> rfl

def after (as : List Action) : ControlPool := as.foldl act empty

/-- How many controls were handed out; they are numbered in this order. -/
def handedOut (as : List Action) : Nat := as.countP Action.handsOut

def created (as : List Action) : Nat := as.countP Action.creates

def Proper (as : List Action) : Prop :=
  ∀ prior a later, as = prior ++ a :: later → ∀ i, a.uses? = some i → i < handedOut prior

theorem after_concat (as : List Action) (a : Action) : after (as ++ [a]) = (after as).act a :=
  List.foldl_append

theorem handedOut_append (as bs : List Action) :
    handedOut (as ++ bs) = handedOut as + handedOut bs := List.countP_append ..

theorem created_append (as bs : List Action) :
    created (as ++ bs) = created as + created bs := List.countP_append ..

theorem Proper.prior {as bs : List Action} (h : Proper (as ++ bs)) : Proper as := by
  rintro prior a later rfl
  exact h prior a (later ++ bs) (by simp)

theorem Proper.last {as : List Action} {a : Action} (h : Proper (as ++ [a])) {i : Nat}
    (hi : a.uses? = some i) : i < handedOut as := h as a [] rfl i hi

theorem Proper.split {prior later : List Action} {a : Action} (h : Proper (prior ++ a :: later)) :
    Proper (prior ++ [a]) := by
  rw [List.append_cons] at h
  exact h.prior

theorem lt_handedOut_of_mem {as : List Action} (h : Proper as) {k : Nat} {x : Change}
    (hm : .change k x ∈ as) : k < handedOut as := by
  obtain ⟨prior, later, rfl⟩ := List.append_of_mem hm
  exact Nat.lt_of_lt_of_le (h prior _ later rfl k rfl)
    (handedOut_append prior _ ▸ Nat.le_add_right _ _)

/-! ## places -/

/-- The place of a control in the pool. -/
def place? (as : List Action) (i : Nat) : Option Nat := (after as).handles[i]?

theorem handles_update (p : ControlPool) (i : Nat) (f : Control → Control) :
    (p.update i f).handles = p.handles := by
  unfold update
  split <;> rfl

theorem handles_clone {p : ControlPool} {i place : Nat} (h : p.handles[i]? = some place) :
    (p.clone i).handles = p.handles ++ [place] := by
  unfold clone
  rw [h]

theorem states_clone (p : ControlPool) (i : Nat) : (p.clone i).states = p.states := by
  unfold clone
  split <;> rfl

theorem length_states_update (p : ControlPool) (i : Nat) (f : Control → Control) :
    (p.update i f).states.length = p.states.length := by
  unfold update
  split
  · exact List.length_modify ..
  · rfl

theorem length_states (as : List Action) : (after as).states.length = created as := by
  induction as using List.reverseRecOn with
  | nil => rfl
  | append_singleton as a ih =>
    rw [after_concat, created_append, ← ih]
    cases a with
    | create => exact List.length_append
    | clone i => exact congrArg List.length (states_clone _ i)
    | change i x =>
      rw [act_change]
      exact length_states_update _ i _

theorem length_handles {as : List Action} (h : Proper as) :
    (after as).handles.length = handedOut as := by
  induction as using List.reverseRecOn with
  | nil => rfl
  | append_singleton as a ih =>
    have hlen := ih h.prior
    rw [after_concat, handedOut_append, ← hlen]
    cases a with
    | create => exact List.length_append
    | clone i =>
      have hi : i < (after as).handles.length := hlen ▸ h.last rfl
      show ((after as).clone i).handles.length = _
      rw [handles_clone (List.getElem?_eq_getElem hi)]
      exact List.length_append
    | change i x =>
      rw [act_change]
      exact congrArg List.length (handles_update _ i _)

/-- Controls keep their places. -/
theorem handles_kept (as bs : List Action) :
    (after as).handles <+: (after (as ++ bs)).handles := by
  induction bs using List.reverseRecOn with
  | nil => exact ⟨[], by rw [List.append_nil, List.append_nil]⟩
  | append_singleton bs b ih =>
    refine ih.trans ?_
    rw [← List.append_assoc, after_concat]
    cases b with
    | create => exact List.prefix_append _ _
    | clone i =>
      show _ <+: ((after (as ++ bs)).clone i).handles
      unfold clone
      split
      · exact List.prefix_append _ _
      · exact List.prefix_rfl
    | change i x =>
      rw [act_change]
      exact ⟨[], (List.append_nil _).trans (handles_update _ i _).symm⟩

theorem getElem?_kept {places places' : List Nat} (h : places <+: places') {i : Nat}
    (hi : i < places.length) : places'[i]? = places[i]? := by
  obtain ⟨_, rfl⟩ := h
  exact List.getElem?_append_left hi

theorem place?_append {as bs : List Action} (h : Proper as) {i : Nat} (hi : i < handedOut as) :
    place? (as ++ bs) i = place? as i := by
  rw [← length_handles h] at hi
  exact getElem?_kept (handles_kept as bs) hi

theorem place?_isSome {as : List Action} (h : Proper as) {i : Nat} (hi : i < handedOut as) :
    ∃ place, place? as i = some place :=
  ⟨_, List.getElem?_eq_getElem ((length_handles h).symm ▸ hi)⟩

/-- The place of a control that was created is new. -/
theorem place?_create {as : List Action} (h : Proper as) :
    place? (as ++ [.create]) (handedOut as) = some (created as) := by
  rw [place?, after_concat, ← length_handles h, ← length_states]
  exact List.getElem?_concat_length

/-- A clone has the place of what it was cloned from. -/
theorem place?_clone {as : List Action} {i : Nat} (h : Proper (as ++ [.clone i])) :
    place? (as ++ [.clone i]) (handedOut as) = place? as i := by
  obtain ⟨place, hplace⟩ := place?_isSome h.prior (h.last rfl)
  rw [place?, after_concat, ← length_handles h.prior, hplace]
  show ((after as).clone i).handles[_]? = _
  rw [handles_clone hplace]
  exact List.getElem?_concat_length

theorem place?_lt {as : List Action} (h : Proper as) {i place : Nat}
    (hp : place? as i = some place) : place < created as := by
  induction as using List.reverseRecOn generalizing i with
  | nil => cases hp
  | append_singleton as a ih =>
    have hi : i < handedOut (as ++ [a]) := length_handles h ▸ (List.getElem?_eq_some_iff.mp hp).1
    rw [handedOut_append] at hi
    rw [created_append]
    rcases Nat.lt_or_ge i (handedOut as) with hlt | hge
    · rw [place?_append h.prior hlt] at hp
      exact Nat.lt_add_right _ (ih h.prior hp)
    · cases a with
      | create =>
        obtain rfl : i = handedOut as := Nat.le_antisymm (Nat.le_of_lt_succ hi) hge
        rw [place?_create h.prior] at hp
        obtain rfl := Option.some.inj hp
        exact Nat.lt_succ_self _
      | clone k =>
        obtain rfl : i = handedOut as := Nat.le_antisymm (Nat.le_of_lt_succ hi) hge
        rw [place?_clone h] at hp
        exact ih h.prior hp
      | change k x => exact absurd hi (Nat.not_lt.mpr hge)

/-! ## kinship -/

/-- Control `i` was cloned from control `k`. -/
def ClonedFrom (as : List Action) (i k : Nat) : Prop :=
  ∃ prior later, as = prior ++ .clone k :: later ∧ i = handedOut prior

/-- Control `i` was created, and not cloned. -/
def IsRoot (as : List Action) (i : Nat) : Prop :=
  ∃ prior later, as = prior ++ .create :: later ∧ i = handedOut prior

/-- Both are clones of one control, at any remove. -/
def Kin (as : List Action) : Nat → Nat → Prop := Relation.EqvGen (ClonedFrom as)

theorem ClonedFrom.append {as : List Action} {i k : Nat} (h : ClonedFrom as i k)
    (bs : List Action) : ClonedFrom (as ++ bs) i k := by
  obtain ⟨prior, later, rfl, rfl⟩ := h
  exact ⟨prior, later ++ bs, by simp, rfl⟩

theorem IsRoot.append {as : List Action} {i : Nat} (h : IsRoot as i) (bs : List Action) :
    IsRoot (as ++ bs) i := by
  obtain ⟨prior, later, rfl, rfl⟩ := h
  exact ⟨prior, later ++ bs, by simp, rfl⟩

theorem Kin.append {as : List Action} {i k : Nat} (h : Kin as i k) (bs : List Action) :
    Kin (as ++ bs) i k :=
  Relation.EqvGen.mono (fun _ _ (hc : ClonedFrom as _ _) => hc.append bs) i k h

theorem ClonedFrom.place?_eq {as : List Action} (h : Proper as) {i k : Nat}
    (hc : ClonedFrom as i k) : place? as i = place? as k := by
  obtain ⟨prior, later, rfl, rfl⟩ := hc
  have hp : Proper (prior ++ [.clone k]) := h.split
  have hn : handedOut (prior ++ [.clone k]) = handedOut prior + 1 := handedOut_append _ _
  have hk : k < handedOut prior := hp.last rfl
  rw [List.append_cons, place?_append hp (hn ▸ Nat.lt_succ_self _),
    place?_append hp (hn ▸ Nat.lt_succ_of_lt hk), place?_append hp.prior hk, place?_clone hp]

theorem Kin.place?_eq {as : List Action} (h : Proper as) {i k : Nat} (hk : Kin as i k) :
    place? as i = place? as k := by
  induction hk with
  | rel i k hc => exact hc.place?_eq h
  | refl i => rfl
  | symm i k _ ih => exact ih.symm
  | trans i j k _ _ ih ih' => exact ih.trans ih'

theorem IsRoot.place?_eq {as : List Action} (h : Proper as) {i : Nat} (hr : IsRoot as i) :
    ∃ prior later, as = prior ++ .create :: later ∧ i = handedOut prior ∧
      place? as i = some (created prior) := by
  obtain ⟨prior, later, rfl, rfl⟩ := hr
  refine ⟨prior, later, rfl, rfl, ?_⟩
  have hp : Proper (prior ++ [.create]) := h.split
  have hn : handedOut (prior ++ [.create]) = handedOut prior + 1 := handedOut_append _ _
  rw [List.append_cons, place?_append hp (hn ▸ Nat.lt_succ_self _), place?_create hp.prior]

/-- Two creations of one history come after different numbers of creations, if they are not the
same. -/
theorem prior_unique {prior prior' later later' : List Action}
    (he : prior ++ .create :: later = prior' ++ .create :: later')
    (hc : created prior = created prior') : prior = prior' := by
  have longer : ∀ {p p' : List Action} {l l' mid : List Action}, created p = created p' →
      p' = p ++ mid → .create :: l = mid ++ .create :: l' → p = p' := by
    rintro p p' l l' mid hc rfl hm
    cases mid with
    | nil => exact (List.append_nil p).symm
    | cons a mid =>
      obtain ⟨rfl, -⟩ := List.cons.inj hm
      rw [created_append] at hc
      have hpos : 0 < created (.create :: mid) := List.countP_pos_iff.mpr
        ⟨.create, List.mem_cons_self, rfl⟩
      omega
  rcases List.append_eq_append_iff.mp he with ⟨mid, hp, hm⟩ | ⟨mid, hp, hm⟩
  · exact longer hc hp hm
  · exact (longer hc.symm hp hm).symm

theorem IsRoot.eq_of_place? {as : List Action} (h : Proper as) {i k : Nat} (hi : IsRoot as i)
    (hk : IsRoot as k) (he : place? as i = place? as k) : i = k := by
  obtain ⟨prior, later, rfl, rfl, hp⟩ := hi.place?_eq h
  obtain ⟨prior', later', has, rfl, hp'⟩ := hk.place?_eq h
  rw [hp, hp'] at he
  rw [prior_unique has (Option.some.inj he)]

theorem exists_root {as : List Action} (h : Proper as) {i : Nat} (hi : i < handedOut as) :
    ∃ r, IsRoot as r ∧ Kin as i r := by
  induction as using List.reverseRecOn generalizing i with
  | nil => cases hi
  | append_singleton as a ih =>
    rw [handedOut_append] at hi
    rcases Nat.lt_or_ge i (handedOut as) with hlt | hge
    · obtain ⟨r, hr, hk⟩ := ih h.prior hlt
      exact ⟨r, hr.append _, hk.append _⟩
    · cases a with
      | create =>
        obtain rfl : i = handedOut as := Nat.le_antisymm (Nat.le_of_lt_succ hi) hge
        exact ⟨_, ⟨as, [], rfl, rfl⟩, .refl _⟩
      | clone k =>
        obtain rfl : i = handedOut as := Nat.le_antisymm (Nat.le_of_lt_succ hi) hge
        obtain ⟨r, hr, hk⟩ := ih h.prior (h.last rfl)
        exact ⟨r, hr.append _, .trans _ k _ (.rel _ _ ⟨as, [], rfl, rfl⟩) (hk.append _)⟩
      | change k x => exact absurd hi (Nat.not_lt.mpr hge)

/-- Kin share a place, and no others do. -/
theorem kin_iff {as : List Action} (h : Proper as) {i k : Nat} (hi : i < handedOut as)
    (hk : k < handedOut as) : Kin as i k ↔ place? as i = place? as k := by
  refine ⟨Kin.place?_eq h, fun he => ?_⟩
  obtain ⟨r, hr, hir⟩ := exists_root h hi
  obtain ⟨r', hr', hkr⟩ := exists_root h hk
  have hroots : place? as r = place? as r' := by
    rw [← hir.place?_eq h, he, hkr.place?_eq h]
  obtain rfl := hr.eq_of_place? h hr' hroots
  exact .trans _ r _ hir (.symm _ _ hkr)

theorem existsUnique_root {as : List Action} (h : Proper as) {i : Nat} (hi : i < handedOut as) :
    ∃! r, IsRoot as r ∧ Kin as i r := by
  obtain ⟨r, hr, hk⟩ := exists_root h hi
  refine ⟨r, ⟨hr, hk⟩, fun r' h' => ?_⟩
  obtain ⟨hr', hk'⟩ := h'
  exact hr'.eq_of_place? h hr ((hk'.place?_eq h).symm.trans (hk.place?_eq h))

/-! ## what comes to a place -/

/-- The changes through the controls of a place, where `handles` tells the places. -/
def heard (handles : List Nat) (place : Nat) (as : List Action) : List Change :=
  as.filterMap fun
    | .change i x => if handles[i]? = some place then some x else none
    | .create | .clone _ => none

theorem heard_append (handles : List Nat) (place : Nat) (as bs : List Action) :
    heard handles place (as ++ bs) = heard handles place as ++ heard handles place bs :=
  List.filterMap_append

theorem mem_heard {handles : List Nat} {place : Nat} {as : List Action} {x : Change} :
    x ∈ heard handles place as ↔ ∃ i, .change i x ∈ as ∧ handles[i]? = some place := by
  rw [heard, List.mem_filterMap]
  constructor
  · rintro ⟨a, ha, hx⟩
    cases a with
    | create => cases hx
    | clone i => cases hx
    | change i y =>
      obtain ⟨hplace, hxy⟩ := Option.ite_none_right_eq_some.mp hx
      obtain rfl := Option.some.inj hxy
      exact ⟨i, ha, hplace⟩
  · rintro ⟨i, ha, hi⟩
    exact ⟨.change i x, ha, if_pos hi⟩

/-- Nothing comes to a place before it is there. -/
theorem heard_new {as : List Action} (h : Proper as) {handles : List Nat}
    (hh : (after as).handles <+: handles) : heard handles (created as) as = [] := by
  refine List.eq_nil_iff_forall_not_mem.mpr fun x hx => ?_
  obtain ⟨i, ha, hi⟩ := mem_heard.mp hx
  have hlt : i < (after as).handles.length := length_handles h ▸ lt_handedOut_of_mem h ha
  have hp : place? as i = some (created as) := (getElem?_kept hh hlt).symm.trans hi
  exact absurd (place?_lt h hp) (Nat.lt_irrefl _)

/-- **The control at a place** is what the changes that came there make of the initial one. -/
theorem states_after {as : List Action} (h : Proper as) {handles : List Nat}
    (hh : (after as).handles <+: handles) {place : Nat} (hp : place < created as) :
    (after as).states[place]? = some (Control.initial.through (heard handles place as)) := by
  induction as using List.reverseRecOn with
  | nil => cases hp
  | append_singleton as a ih =>
    have hh' : (after as).handles <+: handles := (handles_kept as [a]).trans hh
    have old : place < created as →
        (after as).states[place]? = some (Control.initial.through (heard handles place as)) :=
      ih h.prior hh'
    rw [created_append] at hp
    rw [after_concat, heard_append, Control.through_append]
    cases a with
    | create =>
      show ((after as).states ++ [Control.initial])[place]? = _
      rcases Nat.lt_or_ge place (created as) with hlt | hge
      · rw [List.getElem?_append_left (length_states as ▸ hlt), old hlt]
        rfl
      · obtain rfl : place = created as := Nat.le_antisymm (Nat.le_of_lt_succ hp) hge
        rw [heard_new h.prior hh', ← length_states]
        exact List.getElem?_concat_length
    | clone i =>
      show ((after as).clone i).states[place]? = _
      rw [states_clone, old hp]
      rfl
    | change i x =>
      obtain ⟨q, hq⟩ := place?_isSome h.prior (h.last rfl)
      have hlt : i < (after as).handles.length := length_handles h.prior ▸ h.last rfl
      have hi : handles[i]? = some q := (getElem?_kept hh' hlt).trans hq
      rw [act_change]
      unfold update
      rw [show (after as).handles[i]? = some q from hq]
      show ((after as).states.modify q _)[place]? = _
      rw [List.getElem?_modify, old hp]
      by_cases hqp : q = place
      · subst hqp
        simp [heard, hi, Control.through]
      · simp [heard, hi, hqp, Control.through]

/-! ## the laws -/

/-- What a control shows: all that its kin were told, and nothing else. -/
structure Shows (as : List Action) (i : Nat) (c : Control) : Prop where
  stop : c.requests.stop = true ↔
    ∃ k r, .change k (.request r) ∈ as ∧ Kin as k i ∧ r.stop = true
  fadeOut : c.requests.fadeOut = true ↔
    ∃ k r, .change k (.request r) ∈ as ∧ Kin as k i ∧ r.fadeOut = true
  /-- the state is the latest one, beginning with the first -/
  state : c.state = .created ∨ ∃ k, .change k (.reach c.state) ∈ as ∧ Kin as k i
  latest : ∀ k state, .change k (.reach state) ∈ as → Kin as k i → state.rank ≤ c.state.rank

structure SharingLaws (as : List Action) : Prop where
  /-- every control goes back to one creation -/
  root : ∀ i < handedOut as, ∃! r, IsRoot as r ∧ Kin as i r
  shows : ∀ i < handedOut as, ∃ c, (after as).read? i = some c ∧ Shows as i c
  clones : ∀ i k, Kin as i k → (after as).read? i = (after as).read? k
  /-- what others are told, the order of the changes, and their number do not count -/
  determined : ∀ bs, Proper bs → bs.filter Action.handsOut = as.filter Action.handsOut →
    ∀ i < handedOut as, (∀ k x, Kin as k i → (.change k x ∈ bs ↔ .change k x ∈ as)) →
      (after bs).read? i = (after as).read? i
  /-- whatever is read later is no less -/
  grows : ∀ bs, Proper (as ++ bs) → ∀ i < handedOut as, ∃ c d, (after as).read? i = some c ∧
    (after (as ++ bs)).read? i = some d ∧ c.Grows d

theorem read?_eq {p : ControlPool} {i place : Nat} (h : p.handles[i]? = some place) :
    p.read? i = p.states[place]? := by
  unfold read?
  rw [h]
  rfl

/-- What is read through a control of the place. -/
theorem read?_after {as : List Action} (h : Proper as) {i place : Nat}
    (hp : place? as i = some place) :
    (after as).read? i = some (Control.initial.through (heard (after as).handles place as)) := by
  rw [read?_eq hp]
  exact states_after h List.prefix_rfl (place?_lt h hp)

/-- The changes that came to the place of a control are those through its kin. -/
theorem mem_heard_iff {as : List Action} (h : Proper as) {i place : Nat} (hi : i < handedOut as)
    (hp : place? as i = some place) {x : Change} :
    x ∈ heard (after as).handles place as ↔ ∃ k, .change k x ∈ as ∧ Kin as k i := by
  rw [mem_heard]
  refine exists_congr fun k => and_congr_right fun hm => ?_
  rw [kin_iff h (lt_handedOut_of_mem h hm) hi, hp]
  rfl

/-- A flag is up if one of the kin asked for it. -/
theorem flag_read {as : List Action} (h : Proper as) {i place : Nat} (hi : i < handedOut as)
    (hp : place? as i = some place) {f : Requests → Bool}
    (hf : ∀ r r', f (r.join r') = (f r || f r')) (hn : f .none = false) :
    f (Control.initial.through (heard (after as).handles place as)).requests = true ↔
      ∃ k r, .change k (.request r) ∈ as ∧ Kin as k i ∧ f r = true := by
  have hinitial : f Control.initial.requests = false := hn
  rw [Control.flag_through hf, hinitial, Bool.false_or, Change.any_raises, exists_comm]
  simp only [mem_heard_iff h hi hp, exists_and_right, ← and_assoc]

theorem shows_read {as : List Action} (h : Proper as) {i : Nat} (hi : i < handedOut as) :
    ∃ c, (after as).read? i = some c ∧ Shows as i c := by
  obtain ⟨place, hp⟩ := place?_isSome h hi
  refine ⟨_, read?_after h hp, ?_, ?_, ?_, ?_⟩
  · exact flag_read h hi hp (fun _ _ => rfl) rfl
  · exact flag_read h hi hp (fun _ _ => rfl) rfl
  · refine (Control.state_through _ _).imp_right fun hm => ?_
    exact (mem_heard_iff h hi hp).mp hm
  · intro k state hm hk
    exact Control.rank_le_through ((mem_heard_iff h hi hp).mpr ⟨k, hm, hk⟩)

/-! ### histories that hand out the same controls -/

/-- The same controls, whatever they were told. -/
def Alike (p q : ControlPool) : Prop :=
  p.handles = q.handles ∧ p.states.length = q.states.length

theorem Alike.act {p q : ControlPool} (h : p.Alike q) (a : Action) : (p.act a).Alike (q.act a) := by
  obtain ⟨hh, hs⟩ := h
  cases a with
  | create =>
    show _ ++ [_] = _ ++ [_] ∧ (_ ++ [_]).length = (_ ++ [_]).length
    rw [hh, hs, List.length_append, List.length_append, hs]
    exact ⟨rfl, rfl⟩
  | clone i =>
    show (p.clone i).handles = (q.clone i).handles ∧ _
    refine ⟨?_, by rw [ControlPool.act, ControlPool.act, states_clone, states_clone, hs]⟩
    unfold clone
    rw [hh]
    split
    · rfl
    · exact hh
  | change i x =>
    rw [act_change, act_change]
    exact ⟨by rw [handles_update, handles_update, hh],
      by rw [length_states_update, length_states_update, hs]⟩

theorem alike_change (p : ControlPool) (i : Nat) (x : Change) :
    p.Alike (p.act (.change i x)) := by
  rw [act_change]
  exact ⟨(handles_update p i _).symm, (length_states_update p i _).symm⟩

theorem alike_filter (as : List Action) (p q : ControlPool) (h : p.Alike q) :
    ((as.filter Action.handsOut).foldl ControlPool.act p).Alike (as.foldl ControlPool.act q) := by
  induction as generalizing p q with
  | nil => exact h
  | cons a as ih =>
    cases a with
    | create => exact ih _ _ (h.act _)
    | clone i => exact ih _ _ (h.act _)
    | change i x =>
      have hx := alike_change q i x
      exact ih _ _ ⟨h.1.trans hx.1, h.2.trans hx.2⟩

theorem handles_eq {as bs : List Action}
    (h : bs.filter Action.handsOut = as.filter Action.handsOut) :
    (after bs).handles = (after as).handles := by
  have hb := (alike_filter bs empty empty ⟨rfl, rfl⟩).1
  have ha := (alike_filter as empty empty ⟨rfl, rfl⟩).1
  rw [h] at hb
  exact hb.symm.trans ha

theorem read_determined {as bs : List Action} (h : Proper as) (hbs : Proper bs)
    (same : bs.filter Action.handsOut = as.filter Action.handsOut) {i : Nat}
    (hi : i < handedOut as)
    (hx : ∀ k x, Kin as k i → (.change k x ∈ bs ↔ .change k x ∈ as)) :
    (after bs).read? i = (after as).read? i := by
  obtain ⟨place, hp⟩ := place?_isSome h hi
  have hhandles := handles_eq same
  have hp' : place? bs i = some place := by rw [place?, hhandles]; exact hp
  rw [read?_after hbs hp', read?_after h hp, hhandles]
  refine congrArg some (Control.through_eq_of_mem_iff fun x => ?_)
  rw [mem_heard, mem_heard]
  refine exists_congr fun k => and_congr_left fun hk => hx k x ?_
  have hlt : k < handedOut as := length_handles h ▸ (List.getElem?_eq_some_iff.mp hk).1
  exact (kin_iff h hlt hi).mpr (hk.trans hp.symm)

theorem read_grows {as bs : List Action} (h : Proper (as ++ bs)) {i : Nat}
    (hi : i < handedOut as) : ∃ c d, (after as).read? i = some c ∧
      (after (as ++ bs)).read? i = some d ∧ c.Grows d := by
  obtain ⟨place, hp⟩ := place?_isSome h.prior hi
  have hp' : place? (as ++ bs) i = some place := (place?_append h.prior hi).trans hp
  have hearlier := states_after h.prior (handles_kept as bs) (place?_lt h.prior hp)
  refine ⟨_, _, (read?_eq hp).trans hearlier, read?_after h hp', ?_⟩
  rw [heard_append, Control.through_append]
  exact Control.le_through _ _

/-- **The laws of sharing**, for any history. -/
theorem sharing {as : List Action} (h : Proper as) : SharingLaws as where
  root _ := existsUnique_root h
  shows _ := shows_read h
  clones i k hk := by
    have hplace : (after as).handles[i]? = (after as).handles[k]? := hk.place?_eq h
    unfold read?
    rw [hplace]
  determined _ hbs same _ hi hx := read_determined h hbs same hi hx
  grows _ hbs _ hi := read_grows hbs hi

example : (after [.create, .clone 0, .create, .change 1 (.request .stopNow),
    .change 0 (.reach .running), .change 1 (.reach .preparing)]).readAll =
      [some ⟨.stopNow, .running⟩, some ⟨.stopNow, .running⟩, some .initial] := by decide

end ControlPool
end FireflyOverlay
