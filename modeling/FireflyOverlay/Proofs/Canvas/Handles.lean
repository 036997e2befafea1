import FireflyOverlay.Proofs.Canvas.Runs
import FireflyOverlay.Proofs.Lease.Ledger

/-!
# The handles and names of a canvas

Contexts and surfaces take their numbers from one counter, which never goes back; the textures of a
context take theirs from a counter of their own.

* `Canvas.Sound`       what is current is there, and the textures of a context have the names from 1
                       up to its counter (`Reachable.sound`);
* `Canvas.Gone`        a number that was given out and is not in use; it stays so (`Gone.change`), and
                       every call with it is refused (`Gone.bind_context`, `Gone.swap` and so on);
* `handles`            the numbers that were given out along a run, in order: they count from 1
                       (`handles_run`);
* `handleLaws_run`     the laws of handles and names, for every run.
-/

namespace FireflyOverlay

variable {α : Type}

/-! ## names of textures -/

namespace ContextState

/-- The textures have the names from 1 to the last one. -/
def Named (s : ContextState α) : Prop := s.textures.keys = List.range' 1 s.lastTexture

variable {s : ContextState α}

theorem keys_modifyBound (s : ContextState α) (f : Texture → Texture) :
    (s.modifyBound f).textures.keys = s.textures.keys := by
  unfold modifyBound
  split
  · exact Table.keys_modify _ _ _
  · rfl

theorem lastTexture_modifyBound (s : ContextState α) (f : Texture → Texture) :
    (s.modifyBound f).lastTexture = s.lastTexture := by
  unfold modifyBound
  split <;> rfl

theorem Named.modifyBound (h : s.Named) (f : Texture → Texture) : (s.modifyBound f).Named := by
  unfold Named
  rw [keys_modifyBound, lastTexture_modifyBound]
  exact h

theorem Named.apply (h : s.Named) (c : DrawCall α) : (s.apply c).Named := by
  cases c with
  | generateTexture =>
    show (s.textures.insert (s.lastTexture + 1) Texture.empty).keys
      = List.range' 1 (s.lastTexture + 1)
    rw [Table.keys_insert, show s.textures.keys = _ from h, List.range'_concat, Nat.one_mul,
      Nat.add_comm 1]
  | setTextureFilters min mag => exact h.modifyBound _
  | uploadTexture width height rgba =>
    rcases s.apply_uploadTexture width height rgba with hs | ⟨f, hs⟩
    · rwa [hs]
    · rw [hs]
      exact h.modifyBound f
  | _ => exact h

end ContextState

/-! ## sound canvases -/

namespace Canvas

structure Sound (s : Canvas α) : Prop where
  issued : Issued s
  opened : ∀ n ∈ s.contexts.keys, s.opened = true
  bound : ∀ b, s.current = some b →
    (∃ state, s.contexts.find? b.context = some state) ∧ ∃ t, s.surfaces.find? b.surface = some t
  named : ∀ n state, s.contexts.find? n = some state → state.Named

variable {s s' : Canvas α}

theorem sound_initial : (initial : Canvas α).Sound :=
  ⟨⟨nofun, nofun⟩, nofun, nofun, nofun⟩

/-- Of the tables and what is current, the next state only loses something. -/
theorem Sound.less (h : s.Sound) (hi : Issued s') (ho : s.opened = true → s'.opened = true)
    (hc : s'.contexts = s.contexts) (hs : s'.surfaces = s.surfaces)
    (hb : ∀ b, s'.current = some b → s.current = some b) : s'.Sound where
  issued := hi
  opened n hn := ho (h.opened n (hc ▸ hn))
  bound b hcur := by
    rw [hc, hs]
    exact h.bound b (hb b hcur)
  named n state hf := h.named n state (hc ▸ hf)

variable [Scalar α] [Root α]

theorem Sound.change {c : Call α} {r : c.Reply} (h : s.Sound) (hc : Change s c r s') :
    s'.Sound := by
  have hi : Issued s' := h.issued.change hc
  cases hc with
  | refused | named | chosen | shown | toldContext | toldSurface | toldCode | ignored =>
    exact h.less hi id rfl rfl fun _ hb => hb
  | opened => exact h.less hi (fun _ => rfl) rfl rfl fun _ hb => hb
  | unbound => exact h.less hi id rfl rfl nofun
  | madeContext ho =>
    have hnew := (h.issued.notMem (Nat.lt_add_one s.lastHandle)).1
    refine ⟨hi, fun _ _ => ho, fun b hb => ?_, fun n state hf => ?_⟩
    · obtain ⟨⟨state, hf⟩, ht⟩ := h.bound b hb
      have hne : b.context ≠ s.lastHandle + 1 := fun hn =>
        hnew (hn ▸ Table.mem_keys_of_find? hf)
      exact ⟨⟨state, (Table.find?_insert_ne hne _ _).trans hf⟩, ht⟩
    · rcases Table.find?_of_insert hnew hf with ⟨-, rfl⟩ | hold
      · rfl
      · exact h.named n state hold
  | madeSurface ho hw hv =>
    have hnew := (h.issued.notMem (Nat.lt_add_one s.lastHandle)).2
    refine ⟨hi, h.opened, fun b hb => ?_, h.named⟩
    obtain ⟨hs, t, hf⟩ := h.bound b hb
    have hne : b.surface ≠ s.lastHandle + 1 := fun hn => hnew (hn ▸ Table.mem_keys_of_find? hf)
    exact ⟨hs, t, (Table.find?_insert_ne hne _ _).trans hf⟩
  | @bound b state t ho hc ht =>
    refine ⟨hi, fun _ _ => ho, fun b' hb => ?_, fun n state' hf => ?_⟩
    · obtain rfl : b = b' := Option.some.inj hb
      exact ⟨Table.exists_find?_modify hc _ (·.defaultViewport t.back.width t.back.height), t, ht⟩
    · obtain ⟨old, hold, ⟨-, rfl⟩ | ⟨-, rfl⟩⟩ :=
        Table.find?_of_modify s.contexts (·.defaultViewport t.back.width t.back.height) hf
      · exact h.named n old hold
      · exact h.named n _ hold
  | @endedContext n state ho hc =>
    refine ⟨hi, fun _ _ => ho, fun b hb => ?_, fun k state' hf => ?_⟩
    · obtain ⟨hcur, hne⟩ := Option.filter_eq_some_iff.mp hb
      obtain ⟨⟨old, hf⟩, ht⟩ := h.bound b hcur
      refine ⟨⟨old, ?_⟩, ht⟩
      show (s.contexts.erase n).find? _ = _
      rw [Table.find?_erase, if_neg (of_decide_eq_true hne), hf]
    · exact h.named k state' (Table.find?_of_erase hf)
  | @endedSurface n t ho ht =>
    refine ⟨hi, h.opened, fun b hb => ?_, h.named⟩
    obtain ⟨hcur, hne⟩ := Option.filter_eq_some_iff.mp hb
    obtain ⟨hs, t', hf⟩ := h.bound b hcur
    refine ⟨hs, t', ?_⟩
    show (s.surfaces.erase n).find? _ = _
    rw [Table.find?_erase, if_neg (of_decide_eq_true hne), hf]
  | @drawn c b state hcur =>
    refine ⟨hi, fun n hn => ?_, fun b' hb => ?_, fun n state' hf => ?_⟩
    · change n ∈ (s.contexts.modify b.context (·.apply c)).keys at hn
      rw [Table.keys_modify] at hn
      exact h.opened n hn
    · obtain ⟨⟨old, hold⟩, t, ht⟩ := h.bound b' hb
      exact ⟨Table.exists_find?_modify hold _ (·.apply c),
        Table.exists_find?_modify ht _ fun t => { t with back := state.paint c t.back }⟩
    · obtain ⟨old, hold, ⟨-, rfl⟩ | ⟨-, rfl⟩⟩ := Table.find?_of_modify s.contexts (·.apply c) hf
      · exact (h.named n old hold).apply c
      · exact h.named n _ hold

theorem Reachable.sound (h : s.Reachable) : s.Sound := by
  induction h with
  | initial => exact sound_initial
  | window _ _ _ ih =>
    exact ih.less (ih.issued.later (Nat.le_refl _) rfl rfl) id rfl rfl fun _ hb => hb
  | call c _ ih =>
    obtain ⟨r, -, hc⟩ := change_step c _
    exact ih.change hc

/-- What is current is found by a draw call, and painted on. -/
theorem Sound.draw (h : s.Sound) {b : Binding} (hb : s.current = some b) :
    ∃ state t, s.contexts.find? b.context = some state ∧ s.surfaces.find? b.surface = some t ∧
      ∀ c, (s.draw c).2 = s.drawOn b state c ∧
        (s.drawOn b state c).surfaces.find? b.surface
          = some { t with back := state.paint c t.back } := by
  obtain ⟨⟨state, hc⟩, t, ht⟩ := h.bound b hb
  refine ⟨state, t, hc, ht, fun c => ⟨?_, ?_⟩⟩
  · simp only [Canvas.draw, currentState?_eq_some.mpr ⟨hb, hc⟩]
  · exact Table.find?_modify_self ht fun t => { t with back := state.paint c t.back }

/-! ## handles that are gone -/

def live (s : Canvas α) : HandleKind → Nat → Bool
  | .context => s.contexts.contains
  | .surface => s.surfaces.contains

/-- The number was given out, and is not in use any more. -/
structure Gone (s : Canvas α) (kind : HandleKind) (n : Nat) : Prop where
  opened : s.opened = true
  issued : n ≤ s.lastHandle
  dead : s.live kind n = false

variable {c : Call α} {r : c.Reply} {kind : HandleKind} {n : Nat}

theorem Change.opened_of (h : Change s c r s') (ho : s.opened = true) : s'.opened = true := by
  cases h <;> first | exact ho | rfl

theorem Change.lastHandle_le (h : Change s c r s') : s.lastHandle ≤ s'.lastHandle := by
  cases h <;> first | exact Nat.le_refl _ | exact Nat.le_succ _

/-- No number comes back into use. -/
theorem Change.dead (h : Change s c r s') (hn : n ≤ s.lastHandle) (hd : s.live kind n = false) :
    s'.live kind n = false := by
  have hne : n ≠ s.lastHandle + 1 := Nat.ne_of_lt (Nat.lt_succ_of_le hn)
  cases h with
  | madeContext | madeSurface =>
    cases kind <;> first | exact hd | exact (Table.contains_insert_ne hne _ _).trans hd
  | endedContext | endedSurface => cases kind <;> simp_all [live, Table.contains_erase]
  | bound | drawn => cases kind <;> simpa [live, drawOn] using hd
  | _ => exact hd

theorem Gone.change (h : Gone s kind n) (hc : Change s c r s') : Gone s' kind n where
  opened := hc.opened_of h.opened
  issued := Nat.le_trans h.issued hc.lastHandle_le
  dead := hc.dead h.issued h.dead

omit [Scalar α] [Root α] in
/-- An answer that fails makes nothing, and ends nothing. -/
theorem ended_of_failed {x : Exchange α} {d : Deed} (h : kind.deed x = some d)
    (hf : x.failed = true) : ∃ n, d = .ended n false := by
  unfold HandleKind.deed at h
  split at h
  · cases hf
  · next done =>
    cases h
    cases done with
    | true => cases hf
    | false => exact ⟨_, rfl⟩
  · cases hf
  · next done =>
    cases h
    cases done with
    | true => cases hf
    | false => exact ⟨_, rfl⟩
  · cases h

/-- What was destroyed is gone. -/
theorem Change.gone (h : Change s c r s') (hi : Issued s)
    (hd : kind.deed ⟨c, r⟩ = some (.ended n true)) : Gone s' kind n := by
  cases h with
  | @endedContext k state ho hc =>
    cases kind <;> cases hd
    exact ⟨ho, hi.contexts n (Table.mem_keys_of_find? hc),
      (Table.contains_erase _ _ _).trans (if_pos rfl)⟩
  | @endedSurface k t ho ht =>
    cases kind <;> cases hd
    exact ⟨ho, hi.surfaces n (Table.mem_keys_of_find? ht),
      (Table.contains_erase _ _ _).trans (if_pos rfl)⟩
  | refused hf hr ht =>
    obtain ⟨_, he⟩ := ended_of_failed hd hr
    cases he
  | _ => cases kind <;> cases hd

/-! ### calls with a handle that is gone -/

theorem Gone.bind_context (h : Gone s .context n) (t : SurfaceId) :
    step (.makeCurrent displayId (some ⟨t, n⟩)) s = s.refuse false .badContext := by
  have hn : s.contexts.contains n = false := h.dead
  show s.makeCurrent displayId (some ⟨t, n⟩) = _
  rw [makeCurrent, withDisplay_open h.opened]
  simp [bind, hn]

theorem Gone.destroyContext (h : Gone s .context n) :
    step (.destroyContext displayId n) s = s.refuse false .badContext := by
  have hn : s.contexts.contains n = false := h.dead
  show s.destroyContext displayId n = _
  rw [Canvas.destroyContext, withDisplay_open h.opened]
  simp [hn]

/-- The context is looked up first. -/
theorem Gone.bind_surface (h : Gone s .surface n) (c : ContextId) :
    step (.makeCurrent displayId (some ⟨n, c⟩)) s
      = s.refuse false (if s.live .context c then .badSurface else .badContext) := by
  have hn : s.surfaces.find? n = none := Table.find?_of_not_contains h.dead
  show s.makeCurrent displayId (some ⟨n, c⟩) = _
  rw [makeCurrent, withDisplay_open h.opened]
  cases hc : s.contexts.contains c <;> simp [bind, live, hn, hc]

theorem Gone.swap (h : Gone s .surface n) :
    step (.swapBuffers displayId n) s = s.refuse false .badSurface := by
  have hn : s.surfaces.find? n = none := Table.find?_of_not_contains h.dead
  show s.swap displayId n = _
  rw [Canvas.swap, withDisplay_open h.opened]
  simp only [hn]

theorem Gone.destroySurface (h : Gone s .surface n) :
    step (.destroySurface displayId n) s = s.refuse false .badSurface := by
  have hn : s.surfaces.contains n = false := h.dead
  show s.destroySurface displayId n = _
  rw [Canvas.destroySurface, withDisplay_open h.opened]
  simp [hn]

/-! ## handles that are given out -/

end Canvas

/-- The handle that an answer gives out. -/
def Exchange.handle? : Exchange α → Option (HandleKind × Nat)
  | ⟨.createContext _ _, some n⟩ => some (.context, n)
  | ⟨.createSurface _ _ _, some n⟩ => some (.surface, n)
  | _ => none

/-- The handles that were given out, in order. -/
def handles (xs : List (Exchange α)) : List (HandleKind × Nat) := xs.filterMap Exchange.handle?

theorem handle?_of_failed {x : Exchange α} (h : x.failed = true) : x.handle? = none := by
  unfold Exchange.handle?
  split <;> first | rfl | cases h

namespace Canvas

variable {s s' : Canvas α} {c : Call α} {r : c.Reply} [Scalar α] [Root α]

/-- A call that succeeds takes a number only to give it out. -/
theorem Change.numbers (h : Change s c r s') :
    List.range' 1 s'.lastHandle
      = List.range' 1 s.lastHandle ++ (Exchange.handle? ⟨c, r⟩).toList.map (·.2) := by
  cases h with
  | madeContext | madeSurface =>
    show List.range' 1 (s.lastHandle + 1) = List.range' 1 s.lastHandle ++ [s.lastHandle + 1]
    rw [List.range'_concat, Nat.one_mul, Nat.add_comm 1]
  | refused hf hr ht =>
    rw [handle?_of_failed hr]
    exact (List.append_nil _).symm
  | _ => exact (List.append_nil _).symm

/-- The numbers that were given out count from 1. -/
theorem handles_run (as : List (Action α)) :
    (handles (answers .initial as)).map (·.2) = List.range' 1 (initial.run as).lastHandle := by
  refine run_induction (P := fun as s => (handles (answers .initial as)).map (·.2)
    = List.range' 1 s.lastHandle) rfl (fun as w v ih => ?_) (fun as c r s' hr hc ih => ?_) as
  · rw [answers, seen_window]
    exact ih
  · rw [answers, seen_call _ hr, hc.numbers, ← ih, handles, List.filterMap_append, List.map_append]
    cases hx : Exchange.handle? (⟨c, r⟩ : Exchange α) <;> simp [hx, handles, answers]

theorem Sound.run (as : List (Action α)) : (initial.run as : Canvas α).Sound :=
  (Reachable.initial.run as).sound

/-- What was destroyed along a run is gone in the end. -/
theorem gone_run {kind : HandleKind} {n : Nat} (as : List (Action α))
    (h : .ended n true ∈ (answers .initial as).filterMap kind.deed) :
    Gone (initial.run as) kind n := by
  revert h
  refine run_induction (P := fun as s => .ended n true ∈ (answers .initial as).filterMap kind.deed →
    Gone s kind n) nofun (fun as w v ih h => ?_) (fun as c r s' hr hc ih h => ?_) as
  · rw [answers, seen_window] at h
    obtain ⟨ho, hn, hd⟩ := ih h
    exact ⟨ho, hn, by cases kind <;> exact hd⟩
  · rw [answers, seen_call _ hr, List.filterMap_append, List.mem_append] at h
    rcases h with h | h
    · exact (ih h).change hc
    · obtain ⟨x, hx, hd⟩ := List.mem_filterMap.mp h
      obtain rfl := List.mem_singleton.mp hx
      exact hc.gone (Sound.run as).issued hd

/-! ## the laws -/

/-- Of a canvas after a run with the answers `xs`. -/
structure HandleLaws (s : Canvas α) (xs : List (Exchange α)) : Prop where
  /-- what is current is there, so that no draw call is lost on it -/
  bound : ∀ b, s.current = some b →
    ∃ state t, s.contexts.find? b.context = some state ∧ s.surfaces.find? b.surface = some t ∧
      ∀ c, (s.draw c).2 = s.drawOn b state c ∧
        (s.drawOn b state c).surfaces.find? b.surface
          = some { t with back := state.paint c t.back }
  ascending : (handles xs).Pairwise fun h k => h.2 < k.2
  once : ((handles xs).map (·.2)).Nodup
  apart : ∀ n, (.context, n) ∈ handles xs → (.surface, n) ∉ handles xs
  /-- a refused call takes no number -/
  count : s.lastHandle = (handles xs).length
  endedContext : ∀ d n, ⟨.destroyContext d n, true⟩ ∈ xs →
    (∀ t, step (.makeCurrent displayId (some ⟨t, n⟩)) s = s.refuse false .badContext) ∧
      step (.destroyContext displayId n) s = s.refuse false .badContext
  /-- the context is looked up first -/
  endedSurface : ∀ d n, ⟨.destroySurface d n, true⟩ ∈ xs →
    (∀ c, step (.makeCurrent displayId (some ⟨n, c⟩)) s
      = s.refuse false (if s.live .context c then .badSurface else .badContext)) ∧
    step (.swapBuffers displayId n) s = s.refuse false .badSurface ∧
    step (.destroySurface displayId n) s = s.refuse false .badSurface
  named : ∀ n state, s.contexts.find? n = some state →
    state.textures.keys = List.range' 1 state.lastTexture ∧ state.textures.contains 0 = false

theorem handleLaws_run (as : List (Action α)) :
    HandleLaws (initial.run as) (answers .initial as) := by
  have hs : (initial.run as : Canvas α).Sound := Sound.run as
  have hn := handles_run as
  have hlt : (handles (answers .initial as)).Pairwise fun h k => h.2 < k.2 := by
    rw [← List.pairwise_map, hn]
    exact List.pairwise_lt_range'
  refine
    { bound := fun b hb => hs.draw hb
      ascending := hlt
      once := by rw [hn]; exact List.nodup_range'
      apart := fun n hc ht => ?_
      count := ?_
      endedContext := fun d n h => ?_
      endedSurface := fun d n h => ?_
      named := fun n state h => ⟨hs.named n state h, ?_⟩ }
  · obtain ⟨i, hi, hci⟩ := List.getElem_of_mem hc
    obtain ⟨j, hj, htj⟩ := List.getElem_of_mem ht
    have hpos := List.pairwise_iff_getElem.mp hlt
    rcases Nat.lt_trichotomy i j with h | rfl | h
    · have := hpos i j hi hj h
      rw [hci, htj] at this
      exact Nat.lt_irrefl n this
    · rw [hci] at htj
      cases htj
    · have := hpos j i hj hi h
      rw [hci, htj] at this
      exact Nat.lt_irrefl n this
  · rw [← List.length_map (·.2), hn, List.length_range']
  · have hg : Gone (initial.run as) .context n := gone_run as (List.mem_filterMap.mpr ⟨_, h, rfl⟩)
    exact ⟨hg.bind_context, hg.destroyContext⟩
  · have hg : Gone (initial.run as) .surface n := gone_run as (List.mem_filterMap.mpr ⟨_, h, rfl⟩)
    exact ⟨hg.bind_surface, hg.swap, hg.destroySurface⟩
  · have hk : state.textures.keys = List.range' 1 state.lastTexture := hs.named n state h
    rw [← Bool.not_eq_true, Table.contains_iff_mem, hk]
    simp

end Canvas
end FireflyOverlay
