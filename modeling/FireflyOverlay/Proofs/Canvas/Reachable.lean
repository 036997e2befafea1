import FireflyOverlay.Proofs.Canvas.Changes

/-!
# Reachable canvases

* `Canvas.Reachable`   what calls and new windows make of a fresh canvas;
* `Canvas.Issued`      every number in use has been given out (`Reachable.issued`), so the next ones
                       are new (`Issued.notMem`);
* `Canvas.reply_isSome`   no call crashes.
-/

namespace FireflyOverlay
namespace Canvas

variable {α : Type}

/-! ## reachable states -/

inductive Reachable [Scalar α] [Root α] : Canvas α → Prop
  | initial : Reachable .initial
  | window {s} (width height : Nat) (h : Reachable s) : Reachable (s.addWindow width height)
  | call {s} (c : Call α) (h : Reachable s) : Reachable (step c s).2

structure Issued (s : Canvas α) : Prop where
  contexts : ∀ n ∈ s.contexts.keys, n ≤ s.lastHandle
  surfaces : ∀ n ∈ s.surfaces.keys, n ≤ s.lastHandle

variable {s : Canvas α}

theorem Issued.notMem (h : Issued s) {n : Nat} (hn : s.lastHandle < n) :
    n ∉ s.contexts.keys ∧ n ∉ s.surfaces.keys := by
  refine ⟨fun hm => ?_, fun hm => ?_⟩
  · exact Nat.not_le_of_lt hn (h.contexts n hm)
  · exact Nat.not_le_of_lt hn (h.surfaces n hm)

theorem issued_insert {β : Type} {t : Table β} {last : Nat} (h : ∀ n ∈ t.keys, n ≤ last) (b : β) :
    ∀ n ∈ (t.insert (last + 1) b).keys, n ≤ last + 1 := by
  intro n hn
  rw [Table.keys_insert] at hn
  rcases List.mem_append.mp hn with hn | hn
  · exact Nat.le_succ_of_le (h n hn)
  · exact Nat.le_of_eq (List.mem_singleton.mp hn)

theorem Issued.later {s' : Canvas α} (h : Issued s) (hl : s.lastHandle ≤ s'.lastHandle)
    (hc : s'.contexts.keys = s.contexts.keys) (hs : s'.surfaces.keys = s.surfaces.keys) :
    Issued s' where
  contexts n hn := Nat.le_trans (h.contexts n (hc ▸ hn)) hl
  surfaces n hn := Nat.le_trans (h.surfaces n (hs ▸ hn)) hl

variable [Scalar α] [Root α]

theorem Issued.change {c : Call α} {r : c.Reply} {s' : Canvas α} (h : Issued s)
    (hc : Change s c r s') : Issued s' := by
  cases hc with
  | madeContext ho =>
    exact ⟨issued_insert h.contexts _, fun n hn => Nat.le_succ_of_le (h.surfaces n hn)⟩
  | madeSurface ho hw hv =>
    exact ⟨fun n hn => Nat.le_succ_of_le (h.contexts n hn), issued_insert h.surfaces _⟩
  | bound ho hc ht => exact h.later (Nat.le_refl _) (by simp) rfl
  | endedContext ho hc => exact ⟨fun n hn => h.contexts n (Table.mem_keys_erase hn), h.surfaces⟩
  | endedSurface ho ht => exact ⟨h.contexts, fun n hn => h.surfaces n (Table.mem_keys_erase hn)⟩
  | drawn c hs =>
    exact h.later (Nat.le_refl _) (by simp [drawOn]) (by simp [drawOn])
  | _ => exact h.later (Nat.le_refl _) rfl rfl

theorem Issued.step (h : Issued s) (c : Call α) : Issued (step c s).2 := by
  obtain ⟨r, -, hc⟩ := change_step c s
  exact h.change hc

theorem Reachable.issued (h : Reachable s) : Issued s := by
  induction h with
  | initial => exact ⟨nofun, nofun⟩
  | window _ _ _ ih => exact ih.later (Nat.le_refl _) rfl rfl
  | call c _ ih => exact ih.step c

/-- No call crashes. -/
theorem reply_isSome (c : Call α) (s : Canvas α) : (step c s).1.reply.isSome = true := by
  obtain ⟨r, hr, -⟩ := change_step c s
  rw [hr]
  rfl

end Canvas
end FireflyOverlay
