import FireflyOverlay.Proofs.Lease.Dealings

/-!
# What is live

The handles that are live after a stretch, crash or no crash, by the answers to the calls for their
ends.

* `HandleKind.account`   the ledger of all that was done to handles of a kind;
* `Vacant`               nothing is live, of either kind.  It stays so as long as no handle is made;
* `GrantsEnds`           the end of a live handle is granted;
* `Accounted es l`       then what the lease `l` holds is live, and nothing else.  So it is after an
                         acquisition (`Acquired.accounted`), and stays so while handles are only
                         given up (`Accounted.append`).
-/

namespace FireflyOverlay

variable {α : Type}

/-- A handle stays live where its end is refused, and where the call for its end crashes. -/
def HandleKind.account (kind : HandleKind) (es : List (Event α)) : Ledger :=
  Ledger.empty.after (kind.doings es)

theorem HandleKind.account_append (kind : HandleKind) (es fs : List (Event α)) :
    kind.account (es ++ fs) = (kind.account es).after (kind.doings fs) := by
  rw [account, kind.doings_append]
  exact List.foldl_append

theorem HandleKind.held_empty (kind : HandleKind) : kind.held .empty = none := by
  cases kind <;> rfl

/-! ## nothing live -/

/-- No context and no surface is live. -/
def Vacant (es : List (Event α)) : Prop := ∀ kind : HandleKind, (kind.account es).live = []

theorem Ledger.live_after {l : Ledger} {ds : List Deed} (hl : l.live = [])
    (hm : ∀ n, .made n ∉ ds) : (l.after ds).live = [] := by
  induction ds generalizing l with
  | nil => exact hl
  | cons d ds ih =>
    refine ih ?_ fun n hn => hm n (List.mem_cons_of_mem d hn)
    cases d with
    | made n => exact absurd List.mem_cons_self (hm n)
    | ended n done => cases done <;> simp [enter, hl]

theorem Vacant.append {es fs : List (Event α)} (h : Vacant es) (hm : MakesNone fs) :
    Vacant (es ++ fs) := by
  intro kind
  rw [kind.account_append]
  exact Ledger.live_after (h kind) (hm kind)

theorem vacant_append_nothing {es fs : List (Event α)} (hf : DealsAs fs []) :
    Vacant (es ++ fs) ↔ Vacant es := by
  refine forall_congr' fun kind => ?_
  rw [kind.account_append, hf kind]
  exact Iff.rfl

/-! ## nothing but what is held -/

def GrantsEnds (es : List (Event α)) : Prop :=
  ∀ kind : HandleKind, Ledger.empty.Granted (kind.doings es)

theorem GrantsEnds.of_append {es fs : List (Event α)} (h : GrantsEnds (es ++ fs))
    (kind : HandleKind) :
    Ledger.empty.Granted (kind.doings es) ∧ (kind.account es).Granted (kind.doings fs) := by
  have hk := h kind
  rwa [kind.doings_append, Ledger.granted_append] at hk

/-- On a display that grants ends, the handles of the lease are live and no others. -/
def Accounted (es : List (Event α)) (l : Lease) : Prop :=
  GrantsEnds es → ∀ kind : HandleKind, kind.account es = .holding (kind.held l)

theorem Acquired.accounted {w : WindowId} {es : List (Event α)} {l : Lease}
    (h : Acquired w .empty es l) : Accounted es l := by
  obtain ⟨handles, k, rfl, hes⟩ := h
  intro _ kind
  rw [HandleKind.account, hes kind, handles.deeds_take]
  cases kind.held (handles.hold k .empty) <;> rfl

theorem Acquired.grounded {w : WindowId} {es : List (Event α)} {l : Lease}
    (h : Acquired w .empty es l) : l.Grounded := by
  obtain ⟨handles, k, rfl, -⟩ := h
  cases k with
  | zero => exact fun _ => ⟨rfl, rfl⟩
  | succ k => exact fun hn => by simp [Handles.hold] at hn

namespace Accounted

variable {es fs : List (Event α)} {l l' : Lease}

theorem append (h : Accounted es l)
    (ht : ∀ kind : HandleKind, Traded (kind.held l) (kind.doings fs) (kind.held l'))
    (hm : MakesNone fs) : Accounted (es ++ fs) l' := by
  intro hg kind
  have hes : kind.account es = .holding (kind.held l) := h (fun k => (hg.of_append k).1) kind
  have hfs : (kind.account es).Granted (kind.doings fs) := (hg.of_append kind).2
  rw [hes] at hfs
  rw [kind.account_append, hes]
  exact (ht kind).after_holding (hm kind) hfs

theorem append_nothing (h : Accounted es l) (hf : DealsAs fs []) : Accounted (es ++ fs) l := by
  refine h.append (fun kind => ?_) (.of_nothing hf)
  rw [hf kind]
  exact .nothing

theorem vacant (h : Accounted es l) (hg : GrantsEnds es)
    (hl : ∀ kind : HandleKind, kind.held l = none) : Vacant es := by
  intro kind
  rw [h hg kind, hl kind]
  rfl

end Accounted
end FireflyOverlay
