import FireflyOverlay.Proofs.Canvas.Handles
import FireflyOverlay.Proofs.Lease.Holders

/-!
# Several holders on one canvas

A canvas gives its numbers out in order, and a call changes only what it names.  So holders that
share one can rely on the laws of holders, whatever the canvas was used for before.

* `Canvas.registry`          what a canvas has in use (`Canvas.faithful_registry`);
* `Numbered`                 a display that gives handles out in order gives none out twice
                             (`Numbered.neverReissued`), as a canvas does (`Canvas.numbered`);
* `Canvas.holders_run`       the laws of holders, after every run on a canvas.
-/

namespace FireflyOverlay

variable {α σ : Type}

/-! ## handles in order -/

section
variable [Display α σ]

variable (α) in
/-- Every new handle lies between the next one before and the next one after. -/
structure Numbered (next : σ → Nat) : Prop where
  mono : ∀ (c : Call α) (d : σ), next d ≤ next (Display.step c d).2
  made : ∀ (kind : HandleKind) (c : Call α) (d : σ) (n : Nat),
    kind.doing (.call c (Display.step c d).1.reply) = some (.made n) →
      next d ≤ n ∧ n < next (Display.step c d).2

namespace Numbered

variable {next : σ → Nat}

theorem le_of_answers (h : Numbered α next) {d d' : σ} {es : List (Event α)}
    (ha : Answers d es d') : next d ≤ next d' := by
  induction es generalizing d with
  | nil => exact Nat.le_of_eq (congrArg next (show d' = d from ha).symm)
  | cons e es ih =>
    cases e with
    | call c reply => exact Nat.le_trans (h.mono c d) (ih ha.2)
    | log | request | state => exact ih ha

/-- A stretch makes new handles, and none twice. -/
theorem made_of_answers (h : Numbered α next) {d d' : σ} {es : List (Event α)}
    (ha : Answers d es d') (kind : HandleKind) :
    ((kind.doings es).filterMap Deed.made?).Nodup ∧
      ∀ n ∈ (kind.doings es).filterMap Deed.made?, next d ≤ n ∧ n < next d' := by
  induction es generalizing d with
  | nil => exact ⟨List.nodup_nil, nofun⟩
  | cons e es ih =>
    have hsplit : (kind.doings (e :: es)).filterMap Deed.made? =
        ((kind.doing e).bind Deed.made?).toList ++ (kind.doings es).filterMap Deed.made? := by
      unfold HandleKind.doings
      rw [List.filterMap_filterMap, List.filterMap_filterMap, List.filterMap_cons]
      cases (kind.doing e).bind Deed.made? <;> rfl
    rw [hsplit]
    cases e with
    | log | request | state =>
      cases kind <;> exact ih ha
    | call c reply =>
      obtain ⟨hnd, hall⟩ := ih ha.2
      have hlow := h.mono c d
      cases hmade : (kind.doing (.call c reply)).bind Deed.made? with
      | none => exact ⟨hnd, fun n hn => ⟨Nat.le_trans hlow (hall n hn).1, (hall n hn).2⟩⟩
      | some m =>
        obtain ⟨deed, hdeed, hm⟩ := Option.bind_eq_some_iff.mp hmade
        have hdm : kind.doing (.call c (Display.step c d).1.reply) = some (.made m) := by
          rw [ha.1, hdeed]
          cases deed <;> cases hm
          rfl
        obtain ⟨hge, hlt⟩ := h.made kind c d m hdm
        have hhigh := h.le_of_answers ha.2
        refine ⟨List.nodup_cons.mpr ⟨fun hn => ?_, hnd⟩, fun n hn => ?_⟩
        · exact absurd (hall m hn).1 (Nat.not_le_of_lt hlt)
        · rcases List.mem_cons.mp hn with rfl | hn
          · exact ⟨hge, Nat.lt_of_lt_of_le hlt hhigh⟩
          · exact ⟨Nat.le_trans hlow (hall n hn).1, (hall n hn).2⟩

/-- The handles of the kind that were made so far come before the next one, and none was made
twice. -/
def Fresh (next : σ → Nat) (S : Shared α σ) (kind : HandleKind) : Prop :=
  (madeOf (S.doings kind)).Nodup ∧ ∀ n ∈ madeOf (S.doings kind), n < next S.display

theorem fresh_act (h : Numbered α next) {S : Shared α σ} {kind : HandleKind}
    (hf : Fresh next S kind) (i : Nat) (op : LeaseOp) : Fresh next (S.act i op) kind := by
  obtain ⟨_, es, -, ha, hd⟩ := Shared.trace_act (deals_playOp op (S.session i))
  obtain ⟨hnd, hall⟩ := h.made_of_answers ha kind
  have hmade : madeOf ((kind.doings es).map (i, ·)) = (kind.doings es).filterMap Deed.made? :=
    List.filterMap_map
  unfold Fresh
  rw [hd, madeOf_append, hmade]
  refine ⟨List.nodup_append.mpr ⟨hf.1, hnd, fun a ha b hb => ?_⟩, fun n hn => ?_⟩
  · exact Nat.ne_of_lt (Nat.lt_of_lt_of_le (hf.2 a ha) (hall b hb).1)
  · rcases List.mem_append.mp hn with hn | hn
    · exact Nat.lt_of_lt_of_le (hf.2 n hn) (h.le_of_answers ha)
    · exact (hall n hn).2

/-- No handle is given out twice, in whatever state the display is at first. -/
theorem neverReissued (h : Numbered α next) (display : σ) (turns : List (Nat × LeaseOp)) :
    ((Shared.start display : Shared α σ).run turns).NeverReissued := by
  have hrun : ∀ (S : Shared α σ) kind, Fresh next S kind → Fresh next (S.run turns) kind := by
    induction turns with
    | nil => exact fun _ _ hf => hf
    | cons t turns ih => exact fun S kind hf => ih _ kind (h.fresh_act hf t.1 t.2)
  have hstart : ∀ kind, Fresh next (Shared.start display : Shared α σ) kind := fun _ =>
    ⟨List.nodup_nil, fun _ hn => absurd hn List.not_mem_nil⟩
  exact fun kind => (hrun _ kind (hstart kind)).1

end Numbered
end

/-! ## canvases -/

namespace Canvas

def registry : Registry (Canvas α) where
  live kind s := { n | s.live kind n = true }
  current := Canvas.current

variable [Scalar α] [Root α] {s s' : Canvas α} {c : Call α} {r : c.Reply} {kind : HandleKind}
  {n : Nat}

theorem Change.live_eq (h : Change s c r s') (hm : kind.makes c = false)
    (he : kind.ends? c ≠ some n) : s'.live kind n = s.live kind n := by
  cases h with
  | madeContext | madeSurface => cases kind <;> first | rfl | cases hm
  | endedContext | endedSurface =>
    cases kind <;> first
      | rfl
      | exact (Table.contains_erase _ _ _).trans (if_neg fun hn => he (congrArg some hn.symm))
  | bound | drawn => cases kind <;> simp [live, drawOn]
  | _ => rfl

theorem Change.loosened (h : Change s c r s') (hb : c.binds = false) :
    s'.current = s.current ∨ s'.current = none := by
  have hfilter : ∀ p : Binding → Bool,
      s.current.filter p = s.current ∨ s.current.filter p = none := by
    intro p
    cases s.current with
    | none => exact .inl rfl
    | some b => cases hp : p b <;> simp [Option.filter, hp]
  cases h with
  | bound => cases hb
  | unbound => exact .inr rfl
  | endedContext | endedSurface => exact hfilter _
  | _ => exact .inl rfl

theorem Change.bound_eq {x : DisplayId} {b : Binding}
    (h : Change s (.makeCurrent x (some b)) true s') : s'.current = some b := by
  cases h with
  | refused hf hr ht => cases hr
  | bound => rfl

theorem Change.made (h : Change s c r s') (hm : kind.deed ⟨c, r⟩ = some (.made n)) :
    n = s.lastHandle + 1 ∧ s'.lastHandle = s.lastHandle + 1 := by
  cases h with
  | madeContext | madeSurface =>
    cases kind <;> cases hm
    exact ⟨rfl, rfl⟩
  | refused hf hr ht =>
    obtain ⟨_, he⟩ := ended_of_failed hm hr
    cases he
  | _ => cases kind <;> cases hm

theorem faithful_registry : (registry : Registry (Canvas α)).Faithful α where
  live_step kind c s n hm he := by
    obtain ⟨r, -, hc⟩ := change_step c s
    exact Bool.eq_iff_iff.mp (hc.live_eq hm he)
  loosened c s hb := by
    obtain ⟨r, -, hc⟩ := change_step c s
    exact hc.loosened hb
  asked c s hq := by
    cases c with
    | currentContext | currentSurface | lastError => rfl
    | _ => cases hq
  bound x b s h := by
    obtain ⟨r, hr, hc⟩ := change_step (.makeCurrent x (some b)) s
    obtain rfl : r = true := Option.some.inj (hr.symm.trans h)
    exact hc.bound_eq
  toldContext s v h := (Option.some.inj h).symm
  toldSurface s v h := (Option.some.inj h).symm

theorem numbered : Numbered α fun s : Canvas α => s.lastHandle + 1 where
  mono c s := by
    obtain ⟨r, -, hc⟩ := change_step c s
    exact Nat.succ_le_succ hc.lastHandle_le
  made kind c s n h := by
    obtain ⟨r, hr, hc⟩ := change_step c s
    have hdeed : kind.deed ⟨c, r⟩ = some (.made n) := by
      rw [← h, show (Display.step c s).1.reply = some r from hr]
      cases kind <;> rfl
    obtain ⟨hn, hlast⟩ := hc.made hdeed
    exact ⟨Nat.le_of_eq hn.symm, by rw [hn]; exact Nat.succ_lt_succ (hlast ▸ Nat.lt_succ_self _)⟩

/-- **Holders that share a canvas** can rely on the laws of holders, after every run. -/
theorem holders_run (s : Canvas α) (turns : List (Nat × LeaseOp)) :
    HolderLaws ((Shared.start s : Shared α (Canvas α)).run turns) := by
  have hn := (numbered (α := α)).neverReissued s turns
  exact Shared.laws_of_owned
    (fun kind => Shared.owned_run (Shared.isOwned_start s kind) turns (hn kind)) hn

end Canvas
end FireflyOverlay
