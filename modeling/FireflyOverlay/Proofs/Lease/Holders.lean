import FireflyOverlay.Proofs.Lease.Registry
import Mathlib.Data.List.Nodup
import Mathlib.Logic.Function.Basic

/-!
# Several holders on one display

Each holder has a lease of its own; the display, with what is current there, belongs to all.  They
act by turns, in any order, and any call may fail or crash.  Who gives a lease up for good releases
it, as with `LeaseOp.release`.

* `Shared`         the display, the leases, and all events with the holder whose turn it was;
* `Owned`          every handle that is held was made for its holder, and its end was not yet asked
                   for; ends are asked for by the holder that the handle was made for, and once.
                   One deed keeps this (`Owned.made`, `Owned.ended`), so every run does
                   (`owned_run`);
* `HolderLaws`     what the holders can rely on;
* `holderLaws`     they hold after every run on a display that gives no handle out twice.
-/

namespace FireflyOverlay

variable {α σ : Type}

/-! ## whose handles -/

namespace Deed

def made? : Deed → Option Nat
  | .made n => some n
  | .ended _ _ => none

def ended? : Deed → Option Nat
  | .made _ => none
  | .ended n _ => some n

end Deed

/-- The handles that were made, in order. -/
def madeOf (ds : List (Nat × Deed)) : List Nat := ds.filterMap (·.2.made?)

/-- The handles whose end was asked for, in order. -/
def endedOf (ds : List (Nat × Deed)) : List Nat := ds.filterMap (·.2.ended?)

theorem madeOf_append (ds es : List (Nat × Deed)) : madeOf (ds ++ es) = madeOf ds ++ madeOf es :=
  List.filterMap_append

theorem endedOf_append (ds es : List (Nat × Deed)) :
    endedOf (ds ++ es) = endedOf ds ++ endedOf es := List.filterMap_append

theorem mem_madeOf {ds : List (Nat × Deed)} {i n : Nat} (h : (i, .made n) ∈ ds) : n ∈ madeOf ds :=
  List.mem_filterMap.mpr ⟨_, h, rfl⟩

theorem mem_endedOf {ds : List (Nat × Deed)} {n : Nat} :
    n ∈ endedOf ds ↔ ∃ i done, (i, .ended n done) ∈ ds := by
  constructor
  · intro h
    obtain ⟨⟨i, d⟩, hd, hn⟩ := List.mem_filterMap.mp h
    cases d with
    | made m => cases hn
    | ended m done =>
      obtain rfl := Option.some.inj hn
      exact ⟨i, done, hd⟩
  · rintro ⟨i, done, hd⟩
    exact List.mem_filterMap.mpr ⟨_, hd, rfl⟩

/-- Where no handle is made twice, each is made for one holder. -/
theorem owner_unique {ds : List (Nat × Deed)} (hn : (madeOf ds).Nodup) {i j n : Nat}
    (hi : (i, .made n) ∈ ds) (hj : (j, .made n) ∈ ds) : i = j := by
  induction ds with
  | nil => cases hi
  | cons d ds ih =>
    rcases List.mem_cons.mp hi with rfl | hi'
    · rcases List.mem_cons.mp hj with hj | hj'
      · exact (Prod.mk.inj hj).1.symm
      · exact absurd (mem_madeOf hj') (List.nodup_cons.mp hn).1
    · rcases List.mem_cons.mp hj with rfl | hj'
      · exact absurd (mem_madeOf hi') (List.nodup_cons.mp hn).1
      · exact ih (hn.sublist ((List.sublist_cons_self d ds).filterMap _)) hi' hj'

structure Owned (ds : List (Nat × Deed)) (held : Nat → Option Nat) : Prop where
  mine : ∀ i n, held i = some n → (i, .made n) ∈ ds
  kept : ∀ i n, held i = some n → n ∉ endedOf ds
  own : ∀ pre i n done post, ds = pre ++ (i, .ended n done) :: post → (i, .made n) ∈ pre
  once : (endedOf ds).Nodup

namespace Owned

variable {ds : List (Nat × Deed)} {held : Nat → Option Nat} {i n : Nat}

theorem start : Owned [] fun _ => none where
  mine := nofun
  kept := nofun
  own pre i n done post h := by cases (List.append_eq_nil_iff.mp h.symm).2
  once := List.nodup_nil

theorem made_of_ended (h : Owned ds held) {done : Bool} (hd : (i, .ended n done) ∈ ds) :
    (i, .made n) ∈ ds := by
  obtain ⟨pre, post, he⟩ := List.append_of_mem hd
  rw [he]
  exact List.mem_append_left _ (h.own pre i n done post he)

/-- One more deed, at the end. -/
theorem own_concat (h : Owned ds held) {d : Nat × Deed}
    (hd : ∀ i n done, d = (i, .ended n done) → (i, .made n) ∈ ds) (pre : List (Nat × Deed))
    (i n : Nat) (done : Bool) (post : List (Nat × Deed))
    (he : ds ++ [d] = pre ++ (i, .ended n done) :: post) : (i, .made n) ∈ pre := by
  rcases List.eq_nil_or_concat post with rfl | ⟨post, x, rfl⟩
  · obtain ⟨rfl, hx⟩ := List.append_inj' he rfl
    exact hd i n done (List.cons.inj hx).1
  · have he' : ds ++ [d] = (pre ++ (i, .ended n done) :: post) ++ [x] := by
      rw [he, List.concat_eq_append, List.append_assoc, List.cons_append]
    exact h.own pre i n done post (List.append_inj' he' rfl).1

theorem made (h : Owned ds held) (hn : (madeOf (ds ++ [(i, .made n)])).Nodup) :
    Owned (ds ++ [(i, .made n)]) (Function.update held i (some n)) := by
  have hfresh : n ∉ madeOf ds := by
    rw [madeOf_append] at hn
    exact fun hm => (List.nodup_append.mp hn).2.2 n hm n List.mem_cons_self rfl
  have hends : endedOf (ds ++ [(i, .made n)]) = endedOf ds := by
    rw [endedOf_append]
    exact List.append_nil _
  refine ⟨fun j m hj => ?_, fun j m hj => ?_, h.own_concat fun _ _ _ hd => (by cases hd), ?_⟩
  · by_cases hji : j = i
    · subst hji
      rw [Function.update_self] at hj
      rw [← Option.some.inj hj]
      exact List.mem_append_right _ List.mem_cons_self
    · rw [Function.update_of_ne hji] at hj
      exact List.mem_append_left _ (h.mine j m hj)
  · rw [hends]
    by_cases hji : j = i
    · subst hji
      rw [Function.update_self] at hj
      rw [← Option.some.inj hj]
      intro he
      obtain ⟨k, done, hk⟩ := mem_endedOf.mp he
      exact hfresh (mem_madeOf (h.made_of_ended hk))
    · rw [Function.update_of_ne hji] at hj
      exact h.kept j m hj
  · rw [hends]
    exact h.once

theorem ended (h : Owned ds held) (hn : (madeOf ds).Nodup) (hi : held i = some n) (done : Bool) :
    Owned (ds ++ [(i, .ended n done)]) (Function.update held i none) := by
  have hends : endedOf (ds ++ [(i, .ended n done)]) = endedOf ds ++ [n] := endedOf_append _ _
  have hother : ∀ j m, Function.update held i none j = some m → j ≠ i ∧ held j = some m := by
    intro j m hj
    by_cases hji : j = i
    · rw [hji, Function.update_self] at hj
      cases hj
    · rw [Function.update_of_ne hji] at hj
      exact ⟨hji, hj⟩
  refine ⟨fun j m hj => ?_, fun j m hj => ?_, h.own_concat fun k m done' hd => ?_, ?_⟩
  · exact List.mem_append_left _ (h.mine j m (hother j m hj).2)
  · obtain ⟨hji, hj⟩ := hother j m hj
    rw [hends, List.mem_append, List.mem_singleton, not_or]
    refine ⟨h.kept j m hj, fun hmn => hji ?_⟩
    rw [hmn] at hj
    exact owner_unique hn (h.mine j n hj) (h.mine i n hi)
  · cases hd
    exact h.mine i n hi
  · rw [hends]
    exact List.nodup_append.mpr ⟨h.once, List.nodup_singleton n, fun a ha b hb hab =>
      h.kept i n hi (by rw [← List.mem_singleton.mp hb, ← hab]; exact ha)⟩

/-- A holder trades, and all is owned as before. -/
theorem traded {before after : Option Nat} {es : List Deed} (ht : Traded before es after)
    (h : Owned ds held) (hi : held i = before) (hn : (madeOf (ds ++ es.map (i, ·))).Nodup) :
    Owned (ds ++ es.map (i, ·)) (Function.update held i after) := by
  induction ht generalizing ds held with
  | nothing =>
    rw [List.map_nil, List.append_nil, ← hi, Function.update_eq_self]
    exact h
  | @made _ n es after _ ih =>
    have hcons : ds ++ (Deed.made n :: es).map (i, ·) =
        (ds ++ [(i, .made n)]) ++ es.map (i, ·) := by simp
    rw [hcons] at hn ⊢
    have hnow : (madeOf (ds ++ [(i, .made n)])).Nodup := by
      rw [madeOf_append] at hn
      exact hn.sublist (List.sublist_append_left _ _)
    rw [← Function.update_idem (a := i) (some n) after held]
    exact ih (h.made hnow) (Function.update_self ..) hn
  | @ended n done es after _ ih =>
    have hcons : ds ++ (Deed.ended n done :: es).map (i, ·) =
        (ds ++ [(i, .ended n done)]) ++ es.map (i, ·) := by simp
    rw [hcons] at hn ⊢
    have hds : (madeOf ds).Nodup := by
      rw [List.append_assoc, madeOf_append] at hn
      exact hn.sublist (List.sublist_append_left _ _)
    rw [← Function.update_idem (a := i) none after held]
    exact ih (h.ended hds hi done) (Function.update_self ..) hn

end Owned

/-! ## turns -/

/-- The operations that use the lease as it is. -/
def LeaseOp.isUse : LeaseOp → Bool
  | .ensureCurrent | .present => true
  | .acquire _ | .release => false

structure Shared (α σ : Type) where
  display : σ
  control : Control
  lease : Nat → Lease
  trace : List (Nat × Event α)

namespace Shared

def start (display : σ) : Shared α σ := ⟨display, .initial, fun _ => .empty, []⟩

/-- What the holder `i` acts on. -/
def session (S : Shared α σ) (i : Nat) : Session α σ := ⟨S.display, S.lease i, S.control, #[]⟩

/-- The turn of the holder `i` has led to the session `s`. -/
def put (S : Shared α σ) (i : Nat) (s : Session α σ) : Shared α σ where
  display := s.display
  control := s.control
  lease := Function.update S.lease i s.lease
  trace := S.trace ++ s.trace.toList.map (i, ·)

/-- What happened to the handles of a kind, with the holders who did it. -/
def doings (S : Shared α σ) (kind : HandleKind) : List (Nat × Deed) :=
  S.trace.filterMap fun e => (kind.doing e.2).map (e.1, ·)

/-- No handle is given out a second time. -/
def NeverReissued (S : Shared α σ) : Prop := ∀ kind, (madeOf (S.doings kind)).Nodup

theorem doings_put (S : Shared α σ) (i : Nat) (s : Session α σ) (kind : HandleKind) :
    (S.put i s).doings kind = S.doings kind ++ (kind.doings s.trace.toList).map (i, ·) := by
  unfold doings put
  rw [List.filterMap_append, List.filterMap_map, HandleKind.doings, List.map_filterMap]
  rfl

theorem held_put (S : Shared α σ) (i : Nat) (s : Session α σ) (kind : HandleKind) :
    (fun j => kind.held ((S.put i s).lease j)) =
      Function.update (fun j => kind.held (S.lease j)) i (kind.held s.lease) :=
  Function.comp_update kind.held S.lease i s.lease

variable [Display α σ]

def act (S : Shared α σ) (i : Nat) (op : LeaseOp) : Shared α σ :=
  S.put i (op.play.outcome (S.session i)).2

def run (S : Shared α σ) (turns : List (Nat × LeaseOp)) : Shared α σ :=
  turns.foldl (fun S t => S.act t.1 t.2) S

theorem run_cons (S : Shared α σ) (t : Nat × LeaseOp) (turns : List (Nat × LeaseOp)) :
    S.run (t :: turns) = (S.act t.1 t.2).run turns := rfl

theorem lease_act_self (S : Shared α σ) (i : Nat) (op : LeaseOp) :
    (S.act i op).lease i = (op.play.outcome (S.session i)).2.lease := Function.update_self ..

theorem lease_act_of_ne (S : Shared α σ) {i j : Nat} (op : LeaseOp) (h : j ≠ i) :
    (S.act i op).lease j = S.lease j := Function.update_of_ne h ..

/-- What a turn adds. -/
theorem trace_act {S : Shared α σ} {i : Nat} {op : LeaseOp}
    {Q : Except Crash Unit → List (Event α) → Session α σ → Prop}
    (h : op.play.Leads (S.session i) Q) :
    ∃ r es, Q r es (op.play.outcome (S.session i)).2 ∧ Answers S.display es (S.act i op).display ∧
      ∀ kind, (S.act i op).doings kind = S.doings kind ++ (kind.doings es).map (i, ·) := by
  obtain ⟨es, hp, hq⟩ := h
  refine ⟨_, es, hq, hp.display, fun kind => ?_⟩
  have hes : (op.play.outcome (S.session i)).2.trace.toList = es := hp.trace
  rw [act, doings_put, hes]

theorem traded_act (S : Shared α σ) (i : Nat) (op : LeaseOp) (kind : HandleKind) :
    ∃ es, (S.act i op).doings kind = S.doings kind ++ es.map (i, ·) ∧
      Traded (kind.held (S.lease i)) es (kind.held ((S.act i op).lease i)) := by
  obtain ⟨_, es, ht, -, hd⟩ := trace_act (deals_playOp op (S.session i))
  refine ⟨kind.doings es, hd kind, ?_⟩
  rw [lease_act_self]
  exact ht kind

/-! ### what every run keeps -/

def IsOwned (S : Shared α σ) (kind : HandleKind) : Prop :=
  Owned (S.doings kind) fun i => kind.held (S.lease i)

omit [Display α σ] in
theorem isOwned_start (display : σ) (kind : HandleKind) :
    (start display : Shared α σ).IsOwned kind := by
  cases kind <;> exact .start

theorem isOwned_act {S : Shared α σ} {kind : HandleKind} (h : S.IsOwned kind) (i : Nat)
    (op : LeaseOp) (hn : (madeOf ((S.act i op).doings kind)).Nodup) :
    (S.act i op).IsOwned kind := by
  obtain ⟨es, hd, ht⟩ := S.traded_act i op kind
  rw [lease_act_self] at ht
  unfold IsOwned
  rw [hd] at hn ⊢
  rw [act, held_put]
  exact h.traded ht rfl hn

theorem doings_run (S : Shared α σ) (turns : List (Nat × LeaseOp)) (kind : HandleKind) :
    ∃ rest, (S.run turns).doings kind = S.doings kind ++ rest := by
  induction turns generalizing S with
  | nil => exact ⟨[], (List.append_nil _).symm⟩
  | cons t turns ih =>
    obtain ⟨rest, hr⟩ := ih (S.act t.1 t.2)
    obtain ⟨es, hd, -⟩ := S.traded_act t.1 t.2 kind
    exact ⟨es.map (t.1, ·) ++ rest, by rw [run_cons, hr, hd, List.append_assoc]⟩

/-- **Every run keeps what is owned**, as long as no handle is given out twice. -/
theorem owned_run {S : Shared α σ} {kind : HandleKind} (h : S.IsOwned kind)
    (turns : List (Nat × LeaseOp)) (hn : (madeOf ((S.run turns).doings kind)).Nodup) :
    (S.run turns).IsOwned kind := by
  induction turns generalizing S with
  | nil => exact h
  | cons t turns ih =>
    rw [run_cons] at hn ⊢
    refine ih (isOwned_act h t.1 t.2 ?_) hn
    obtain ⟨rest, hr⟩ := (S.act t.1 t.2).doings_run turns kind
    rw [hr, madeOf_append] at hn
    exact hn.sublist (List.sublist_append_left _ _)

/-! ### what a release does to others -/

/-- The handles of a kind that were made for the holder and are live. -/
def liveOf (S : Shared α σ) (r : Registry σ) (kind : HandleKind) (i : Nat) : Set Nat :=
  { n | (i, .made n) ∈ S.doings kind ∧ n ∈ r.live kind S.display }

/-- Without a display a release does nothing. -/
theorem act_release_of_none {S : Shared α σ} {i : Nat} (h : (S.lease i).display = none) :
    S.act i .release = S := by
  show S.put i ((release : Play α σ Unit).outcome (S.session i)).2 = S
  rw [outcome_release h]
  show (⟨S.display, S.control, Function.update S.lease i (S.lease i), S.trace ++ []⟩ :
    Shared α σ) = S
  rw [Function.update_eq_self, List.append_nil]

/-- The end of a handle of another holder is not asked for. -/
theorem liveOf_release {r : Registry σ} (hr : r.Faithful α) {S : Shared α σ} {kind : HandleKind}
    (ho : S.IsOwned kind) (hn : (madeOf (S.doings kind)).Nodup) {i j : Nat} (hij : j ≠ i) :
    (S.act i .release).liveOf r kind j = S.liveOf r kind j := by
  have hfrees : (LeaseOp.play .release : Play α σ Unit).Leads (S.session i) _ :=
    Registry.frees_release hr (S.session i)
  obtain ⟨_, es, ⟨hmade, -, hlive⟩, -, hd⟩ := trace_act hfrees
  have hnone : madeOf ((kind.doings es).map (i, ·)) = [] := by
    unfold madeOf
    rw [List.filterMap_map]
    refine List.filterMap_eq_nil_iff.mpr fun d hdeed => ?_
    cases d with
    | made n => exact absurd hdeed (hmade kind n)
    | ended n done => rfl
  have howned : (S.act i .release).IsOwned kind := by
    refine isOwned_act ho i .release ?_
    rw [hd, madeOf_append, hnone, List.append_nil]
    exact hn
  have hmine : ∀ k n, (k, .made n) ∈ (S.act i .release).doings kind ↔
      (k, .made n) ∈ S.doings kind := by
    intro k n
    rw [hd, List.mem_append]
    refine or_iff_left fun hm => ?_
    obtain ⟨d, hdeed, he⟩ := List.mem_map.mp hm
    rw [(Prod.mk.inj he).2] at hdeed
    exact hmade kind n hdeed
  have hspared : ∀ n, (j, .made n) ∈ S.doings kind → ∀ done, .ended n done ∉ kind.doings es := by
    intro n hj done he
    have hasked : (i, .ended n done) ∈ (S.act i .release).doings kind := by
      rw [hd]
      exact List.mem_append_right _ (List.mem_map_of_mem he)
    have hi : (i, .made n) ∈ S.doings kind := (hmine i n).mp (howned.made_of_ended hasked)
    exact hij (owner_unique hn hj hi)
  ext n
  constructor
  · rintro ⟨hm, hl⟩
    have hj := (hmine j n).mp hm
    exact ⟨hj, (hlive kind n (hspared n hj)).mp hl⟩
  · rintro ⟨hj, hl⟩
    exact ⟨(hmine j n).mpr hj, (hlive kind n (hspared n hj)).mpr hl⟩

end Shared

open Shared

variable [Display α σ]

/-- What holders can rely on after their turns, and what a release of one means for another.  The
last three are about what is in use on the display, by any faithful registry of it. -/
structure HolderLaws (S : Shared α σ) : Prop where
  /-- the end of a handle is asked for by the holder that it was made for -/
  own : ∀ kind pre i n done post,
    S.doings kind = pre ++ (i, .ended n done) :: post → (i, .made n) ∈ pre
  /-- and it is asked for once -/
  once : ∀ kind, (endedOf (S.doings kind)).Nodup
  /-- without a display a release makes no call, and nothing changes -/
  idle : ∀ i, (S.lease i).display = none → S.act i .release = S
  /-- a release leaves the leases of others alone -/
  leases : ∀ i j, j ≠ i → (S.act i .release).lease j = S.lease j
  /-- and their live handles live -/
  apart : ∀ r : Registry σ, r.Faithful α → ∀ i j, j ≠ i → ∀ kind,
    (S.act i .release).liveOf r kind j = S.liveOf r kind j
  /-- at most it unbinds -/
  loosened : ∀ r : Registry σ, r.Faithful α → ∀ i,
    r.current (S.act i .release).display = r.current S.display ∨
      r.current (S.act i .release).display = none
  /-- the next `ensureCurrent` of another that succeeds makes its binding current again -/
  restored : ∀ r : Registry σ, r.Faithful α → ∀ i j d b turns, j ≠ i →
    (S.lease j).bound? = some (d, b) → (∀ t ∈ turns, t.1 = j → t.2.isUse = true) →
    (ensureCurrent.outcome (((S.act i .release).run turns).session j)).1 = .ok (.ok ()) →
    r.current (((S.act i .release).run turns).act j .ensureCurrent).display = some b

theorem keeps_use {op : LeaseOp} (h : op.isUse = true) : (op.play : Play α σ Unit).Keeps := by
  cases op with
  | acquire | release => cases h
  | ensureCurrent => exact keeps_ensureCurrent.bind fun _ => .pure ()
  | present => exact keeps_present.bind fun _ => .pure ()

theorem Shared.lease_run (S : Shared α σ) {j : Nat} {turns : List (Nat × LeaseOp)}
    (h : ∀ t ∈ turns, t.1 = j → t.2.isUse = true) : (S.run turns).lease j = S.lease j := by
  induction turns generalizing S with
  | nil => rfl
  | cons t turns ih =>
    have hfirst : (S.act t.1 t.2).lease j = S.lease j := by
      by_cases hj : j = t.1
      · obtain ⟨_, -, hl, -⟩ := keeps_use (h t List.mem_cons_self hj.symm) (S.session t.1)
        rw [hj, lease_act_self, hl]
        rfl
      · exact S.lease_act_of_ne t.2 hj
    rw [run_cons, ih _ fun u hu => h u (List.mem_cons_of_mem t hu), hfirst]

theorem Shared.current_ensured {r : Registry σ} (hr : r.Faithful α) {S : Shared α σ} {j : Nat}
    {d : DisplayId} {b : Binding} (hb : (S.lease j).bound? = some (d, b))
    (hok : (ensureCurrent.outcome (S.session j)).1 = .ok (.ok ())) :
    r.current (S.act j .ensureCurrent).display = some b := by
  obtain ⟨_, -, hcurrent⟩ := r.current_of_ensured hr (S.session j) hb
  have hplay : ((LeaseOp.play .ensureCurrent : Play α σ Unit).outcome (S.session j)).2 =
      (ensureCurrent.outcome (S.session j)).2 := by
    show ((ensureCurrent >>= fun _ => pure ()).outcome (S.session j)).2 = _
    rw [Play.outcome_bind]
    rcases ensureCurrent.outcome (S.session j) with ⟨_ | _, _⟩ <;> rfl
  show r.current ((LeaseOp.play .ensureCurrent : Play α σ Unit).outcome (S.session j)).2.display = _
  rw [hplay]
  exact hcurrent hok

theorem Shared.laws_of_owned {S : Shared α σ} (ho : ∀ kind, S.IsOwned kind)
    (hn : S.NeverReissued) : HolderLaws S where
  own kind := (ho kind).own
  once kind := (ho kind).once
  idle i := act_release_of_none
  leases i j hij := S.lease_act_of_ne _ hij
  apart r hr i j hij kind := liveOf_release hr (ho kind) (hn kind) hij
  loosened r hr i := by
    obtain ⟨_, -, -, hcurrent, -⟩ := Registry.frees_release hr (S.session i)
    exact hcurrent
  restored r hr i j d b turns hij hb hturns hok := by
    refine current_ensured (d := d) hr ?_ hok
    rw [Shared.lease_run _ hturns, S.lease_act_of_ne _ hij]
    exact hb

/-- **Holders keep to their own.**  On a display that gives no handle out twice, whatever fails or
crashes there and however the turns fall. -/
theorem holderLaws (display : σ) (turns : List (Nat × LeaseOp))
    (hn : ((start display : Shared α σ).run turns).NeverReissued) :
    HolderLaws ((start display : Shared α σ).run turns) :=
  laws_of_owned (fun kind => owned_run (isOwned_start display kind) turns (hn kind)) hn

/-- Two holders, and a display that refuses to end contexts.  The first gives its lease up and
comes back while the second has one. -/
def twoHolders : Shared Unit StandIn :=
  (start (StandIn.initial.fail (.usual .destroyContext))).run
    [(0, .acquire 0), (1, .acquire 0), (0, .release), (1, .ensureCurrent), (0, .acquire 0)]

theorem doings_twoHolders (kind : HandleKind) :
    twoHolders.doings kind = match kind with
      | .context => [(0, .made 3), (1, .made 7), (0, .ended 3 false), (0, .made 11)]
      | .surface => [(0, .made 4), (1, .made 8), (0, .ended 4 true), (0, .made 12)] := by
  cases kind <;> decide +kernel

/-- The first releases again, and the second goes on. -/
theorem holderLaws_twoHolders :
    twoHolders.NeverReissued ∧ HolderLaws twoHolders ∧
      ((twoHolders.act 0 .release).act 1 .ensureCurrent).display.current = some ⟨8, 7⟩ := by
  have hn : twoHolders.NeverReissued := by
    intro kind
    rw [doings_twoHolders]
    cases kind <;> decide
  have hlaws := holderLaws _ _ hn
  refine ⟨hn, hlaws, ?_⟩
  exact hlaws.restored StandIn.registry StandIn.faithful_registry 0 1 5 ⟨8, 7⟩ [] (by decide)
    (by decide +kernel) nofun (by decide +kernel)

end FireflyOverlay
