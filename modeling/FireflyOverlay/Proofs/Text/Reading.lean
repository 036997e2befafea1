import FireflyOverlay.Proofs.Text.Matching
import FireflyOverlay.Text.Pattern.Reader

/-!
# Patterns that are read

The pattern of a text has no repetition with a greatest count below its least one, so the search is
right for it.

* `PatternReading.Orderly`     all parts of all open groups are orderly;
* `PatternReading.Orderly.step?`   one step keeps it;
* `Pattern.orderly_of_ofText?` so the whole is orderly;
* `Pattern.occursIn_iff_of_ofText?`   the search for a pattern of a text.
-/

namespace FireflyOverlay
namespace Text

/-! ## groups -/

theorem PatternPart.orderly_gather {join : Pattern → Pattern → Pattern}
    (hjoin : ∀ {p q : Pattern}, p.Orderly → q.Orderly → (join p q).Orderly)
    {parts : List PatternPart} (h : ∀ p ∈ parts, p.pattern.Orderly) :
    (gather join parts).pattern.Orderly := by
  match parts, h with
  | [], _ => exact trivial
  | [p], h => exact h p List.mem_cons_self
  | p :: q :: rest, h =>
    obtain ⟨hp, hrest⟩ := List.forall_mem_cons.mp h
    exact List.foldlRecOn _ _ hp fun r hr q hq => hjoin hr (hrest q hq)

namespace PatternGroup

/-- All its parts are orderly. -/
structure Orderly (g : PatternGroup) : Prop where
  branches : ∀ p ∈ g.branches, p.pattern.Orderly
  parts : ∀ p ∈ g.parts, p.pattern.Orderly

theorem orderly_empty (outside : PatternFlags) : (empty outside).Orderly := ⟨nofun, nofun⟩

section
variable {g : PatternGroup} (h : g.Orderly)
include h

theorem Orderly.add {p : PatternPart} (hp : p.pattern.Orderly) : (g.add p).Orderly :=
  ⟨h.branches, List.forall_mem_cons.mpr ⟨hp, h.parts⟩⟩

theorem Orderly.branch : g.branch.Orderly := by
  have hparts : ∀ p ∈ g.parts.reverse, p.pattern.Orderly := fun p hp =>
    h.parts p (List.mem_reverse.mp hp)
  exact ⟨List.forall_mem_cons.mpr ⟨PatternPart.orderly_gather .andThen hparts, h.branches⟩, nofun⟩

theorem Orderly.whole : g.whole.pattern.Orderly := by
  have heither : ∀ {p q : Pattern}, p.Orderly → q.Orderly → (Pattern.either p q).Orderly :=
    fun hp hq => ⟨hp, hq⟩
  exact PatternPart.orderly_gather heither fun p hp =>
    h.branch.branches p (List.mem_reverse.mp hp)

theorem Orderly.repeat? {least : Nat} {most : Option Nat} (hmost : ∀ m ∈ most, least ≤ m) :
    ∀ g' ∈ g.repeat? least most, g'.Orderly := by
  intro g' hg'
  unfold PatternGroup.repeat? at hg'
  split at hg'
  · exact nomatch hg'
  · next p parts hparts =>
    obtain ⟨hp, hrest⟩ := List.forall_mem_cons.mp (hparts ▸ h.parts)
    split at hg'
    · exact nomatch hg'
    · obtain rfl := Option.some.inj hg'
      exact ⟨h.branches, List.forall_mem_cons.mpr ⟨hp.repeated hmost, hrest⟩⟩

end

end PatternGroup

namespace PatternReading

/-- All parts of its groups are orderly. -/
structure Orderly (s : PatternReading) : Prop where
  group : s.group.Orderly
  around : ∀ g ∈ s.around, g.Orderly

theorem counts?_le {f : PatternFlags} {text rest : List Char} {least most : Nat}
    (h : counts? f text = some ((least, some most), rest)) : least ≤ most := by
  obtain ⟨⟨n, rest₁⟩, -, h⟩ := Option.bind_eq_some_iff.mp h
  simp only at h
  split at h
  · obtain ⟨⟨rfl, hm⟩, -⟩ := by simpa using h
    exact Nat.le_of_eq hm
  · split at h
    · exact nomatch h
    · obtain ⟨⟨m, rest₂⟩, -, h⟩ := Option.bind_eq_some_iff.mp h
      simp only at h
      split at h
      · split at h
        · next hle =>
          obtain ⟨⟨rfl, rfl⟩, -⟩ := by simpa using h
          exact hle
        · exact nomatch h
      · exact nomatch h
  · exact nomatch h

theorem orderly_dot? {f : PatternFlags} : ∀ p ∈ dot? f, p.Orderly := by
  intro p hp
  unfold dot? at hp
  split at hp
  · exact nomatch hp
  · split at hp
    · exact Option.some.inj hp ▸ trivial
    · split at hp <;> exact Option.some.inj hp ▸ trivial

theorem orderly_atom {f : PatternFlags} {a : PatternAtom} : (atom f a).Orderly := by
  cases a <;> trivial

section
variable {s : PatternReading} (h : s.Orderly)
include h

theorem Orderly.add {p : Pattern} (hp : p.Orderly) (depth : Nat) : (s.add p depth).Orderly :=
  ⟨h.group.add hp, h.around⟩

theorem Orderly.openGroup (flags : PatternFlags) : (s.openGroup flags).Orderly :=
  ⟨PatternGroup.orderly_empty _, List.forall_mem_cons.mpr ⟨h.group, h.around⟩⟩

theorem Orderly.closeGroup? : ∀ s' ∈ s.closeGroup?, s'.Orderly := by
  intro s' hs'
  unfold PatternReading.closeGroup? at hs'
  split at hs'
  · exact nomatch hs'
  · next outer around hs =>
    obtain ⟨houter, haround⟩ := List.forall_mem_cons.mp (hs ▸ h.around)
    obtain rfl := Option.some.inj hs'
    exact ⟨houter.add h.group.whole, haround⟩

theorem Orderly.named? {text : List Char} : ∀ r ∈ s.named? text, r.1.Orderly := by
  intro r hr
  unfold PatternReading.named? at hr
  simp only at hr
  split at hr
  · split at hr
    · obtain rfl := Option.some.inj hr
      exact ⟨(h.openGroup s.flags).group, (h.openGroup s.flags).around⟩
    · exact nomatch hr
  · exact nomatch hr

theorem Orderly.flagged? {text : List Char} : ∀ r ∈ s.flagged? text, r.1.Orderly := by
  intro r hr
  unfold PatternReading.flagged? at hr
  simp only at hr
  split at hr
  · obtain ⟨f, -, rfl⟩ := Option.map_eq_some_iff.mp hr
    exact h.openGroup f
  · split at hr
    · exact nomatch hr
    · obtain ⟨f, -, rfl⟩ := Option.map_eq_some_iff.mp hr
      exact ⟨h.group.add trivial, h.around⟩
  · exact nomatch hr

theorem Orderly.opened? {text : List Char} : ∀ r ∈ s.opened? text, r.1.Orderly := by
  intro r hr
  unfold PatternReading.opened? at hr
  split at hr
  · exact h.named? r hr
  · exact h.named? r hr
  · exact h.flagged? r hr
  · obtain rfl := Option.some.inj hr
    exact h.openGroup s.flags

theorem Orderly.repeated? {least : Nat} {most : Option Nat} (hmost : ∀ m ∈ most, least ≤ m)
    {rest : List Char} : ∀ r ∈ s.repeated? least most rest, r.1.Orderly := by
  intro r hr
  obtain ⟨g, hg, rfl⟩ := Option.map_eq_some_iff.mp hr
  exact ⟨h.group.repeat? hmost g hg, h.around⟩

theorem Orderly.step? {text : List Char} : ∀ r ∈ s.step? text, r.1.Orderly := by
  intro r hr
  unfold PatternReading.step? at hr
  split at hr
  · exact nomatch hr
  · exact h.opened? r hr
  · obtain ⟨s', hs', rfl⟩ := Option.map_eq_some_iff.mp hr
    exact h.closeGroup? s' hs'
  · obtain rfl := Option.some.inj hr
    exact ⟨h.group.branch, h.around⟩
  · obtain ⟨p, -, rfl⟩ := Option.map_eq_some_iff.mp hr
    exact h.add (p := .one _) trivial _
  · exact h.repeated? (fun m _ => Nat.zero_le m) r hr
  · exact h.repeated? (fun m hm => absurd hm (Option.not_mem_none m)) r hr
  · exact h.repeated? (fun m hm => absurd hm (Option.not_mem_none m)) r hr
  · -- counts in braces were compared when they were read
    obtain ⟨⟨⟨least, most⟩, rest⟩, hc, hr⟩ := Option.bind_eq_some_iff.mp hr
    refine h.repeated? (fun m hm => ?_) r hr
    obtain rfl : most = some m := hm
    exact counts?_le hc
  · obtain ⟨a, -, rfl⟩ := Option.map_eq_some_iff.mp hr
    exact h.add orderly_atom 0
  · obtain ⟨p, hp, rfl⟩ := Option.map_eq_some_iff.mp hr
    exact h.add (orderly_dot? p hp) 0
  · obtain rfl := Option.some.inj hr
    exact h.add (p := .edge _) trivial 0
  · obtain rfl := Option.some.inj hr
    exact h.add (p := .edge _) trivial 0
  · obtain rfl := Option.some.inj hr
    exact h.add orderly_atom 0

theorem Orderly.readAll? {text : List Char} : ∀ s' ∈ s.readAll? text, s'.Orderly := by
  fun_induction PatternReading.readAll? s text with
  | case1 s text ht =>
    intro s' hs'
    exact Option.some.inj hs' ▸ h
  | case2 s text c cs ht hstep => exact fun s' hs' => absurd hs' (Option.not_mem_none s')
  | case3 s text c cs ht s₁ rest hstep hlen ih => exact ih (h.step? _ hstep)
  | case4 s text c cs ht s₁ rest hstep hlen =>
    exact fun s' hs' => absurd hs' (Option.not_mem_none s')

end

end PatternReading

namespace Pattern

theorem orderly_of_ofText? {text : List Char} {p : Pattern} (h : ofText? text = some p) :
    p.Orderly := by
  obtain ⟨s, hs, hp⟩ := Option.bind_eq_some_iff.mp h
  have initial : PatternReading.initial.Orderly := ⟨PatternGroup.orderly_empty _, nofun⟩
  simp only at hp
  split at hp
  · exact Option.some.inj hp ▸ (initial.readAll? s hs).group.whole
  · exact nomatch hp

/-- The search for a pattern that was read finds a match if there is one. -/
theorem occursIn_iff_of_ofText? {source : List Char} {p : Pattern} (h : ofText? source = some p)
    {text : List Char} : p.occursIn text = true ↔
      ∃ before part after, text = before ++ part ++ after ∧ p.Matches before part after :=
  occursIn_iff (orderly_of_ofText? h)

end Pattern
end Text
end FireflyOverlay
