import FireflyOverlay.Text.Pattern

/-!
# What a pattern matches

A part of a text matches a pattern, between what is before it and what is after it.  The search
finds one if there is one.

* `Pattern.Matches`      the parts that match, by the form of the pattern;
* `Pattern.FirstMatch`   a match of which no other one starts before it;
* `Pattern.Orderly`      no repetition has a greatest count below its least one;
* `Pattern.isBlankAt_iff`   a pattern that is blank at a place matches no characters there;
* `Pattern.exists_rest_iff`   a match goes on, after a character, with a match of one of the rests;
* `Pattern.occursIn_iff`   the search is right for orderly patterns.
-/

namespace FireflyOverlay
namespace Text
namespace Pattern

/-! ## matches -/

/-- A part is `n` parts, one after another. -/
def Repeats (r : List Char → List Char → List Char → Prop) :
    Nat → List Char → List Char → List Char → Prop
  | 0, _, part, _ => part = []
  | n + 1, before, part, after =>
    ∃ u v, part = u ++ v ∧ r before u (v ++ after) ∧ Repeats r n (before ++ u) v after

/-- A part matches in the text `before ++ part ++ after`. -/
def Matches : Pattern → List Char → List Char → List Char → Prop
  | blank, _, part, _ => part = []
  | one s, _, part, _ => ∃ c, part = [c] ∧ s.contains c = true
  | edge e, before, part, after => part = [] ∧ e.holds ⟨before.getLast?, after.head?⟩ = true
  | both p q, before, part, after =>
    ∃ u v, part = u ++ v ∧ p.Matches before u (v ++ after) ∧ q.Matches (before ++ u) v after
  | either p q, before, part, after => p.Matches before part after ∨ q.Matches before part after
  | times p least most, before, part, after =>
    ∃ n, least ≤ n ∧ (∀ m ∈ most, n ≤ m) ∧ Repeats p.Matches n before part after

/-- No match starts before it. -/
structure FirstMatch (p : Pattern) (text before part after : List Char) : Prop where
  text_eq : text = before ++ part ++ after
  part_matches : p.Matches before part after
  first : ∀ before' part' after', text = before' ++ part' ++ after' →
    p.Matches before' part' after' → before.length ≤ before'.length

/-- Any number of characters of a set. -/
theorem matches_many_iff {s : CharSet} {before part after : List Char} :
    (times (one s) 0 none).Matches before part after ↔ ∀ c ∈ part, s.contains c = true := by
  have hmany : ∀ n before, Repeats (one s).Matches n before part after ↔
      part.length = n ∧ ∀ c ∈ part, s.contains c = true := by
    intro n
    induction n generalizing part with
    | zero =>
      intro before
      rw [List.length_eq_zero_iff]
      exact ⟨fun h => ⟨h, h ▸ nofun⟩, And.left⟩
    | succ n ih =>
      intro before
      constructor
      · rintro ⟨u, v, rfl, ⟨c, rfl, hc⟩, hv⟩
        obtain ⟨hlen, hall⟩ := (ih _).mp hv
        exact ⟨congrArg (· + 1) hlen, List.forall_mem_cons.mpr ⟨hc, hall⟩⟩
      · rintro ⟨hlen, hall⟩
        match part, hlen with
        | c :: cs, hlen =>
          obtain ⟨hc, hcs⟩ := List.forall_mem_cons.mp hall
          exact ⟨[c], cs, rfl, ⟨c, rfl, hc⟩, (ih _).mpr ⟨Nat.succ.inj hlen, hcs⟩⟩
  constructor
  · rintro ⟨n, -, -, hn⟩
    exact ((hmany n before).mp hn).2
  · intro h
    exact ⟨part.length, Nat.zero_le _, nofun, (hmany _ before).mpr ⟨rfl, h⟩⟩

/-! ## orderly patterns -/

def Orderly : Pattern → Prop
  | blank | one _ | edge _ => True
  | both p q | either p q => p.Orderly ∧ q.Orderly
  | times p least most => p.Orderly ∧ ∀ m ∈ most, least ≤ m

section
variable {p q : Pattern} {least : Nat} {most : Option Nat}

theorem Orderly.andThen (hp : p.Orderly) (hq : q.Orderly) : (p.andThen q).Orderly := by
  unfold Pattern.andThen
  split
  · exact hq
  · split
    · exact hp
    · exact ⟨hp, hq⟩

theorem Orderly.repeated (hp : p.Orderly) (h : ∀ m ∈ most, least ≤ m) :
    (p.repeated least most).Orderly := by
  unfold Pattern.repeated
  split
  · trivial
  · exact ⟨hp, h⟩

theorem Orderly.rests {place : Place} {c : Char} (hp : p.Orderly) :
    ∀ q ∈ p.rests place c, q.Orderly := by
  induction p with
  | blank | edge e => exact nofun
  | one s =>
    intro q hq
    unfold Pattern.rests at hq
    split at hq
    · exact List.mem_singleton.mp hq ▸ trivial
    · exact absurd hq List.not_mem_nil
  | both p r ihp ihr =>
    intro q hq
    rcases List.mem_append.mp hq with hq | hq
    · obtain ⟨p', hp', rfl⟩ := List.mem_map.mp hq
      exact (ihp hp.1 p' hp').andThen hp.2
    · split at hq
      · exact ihr hp.2 q hq
      · exact absurd hq List.not_mem_nil
  | either p r ihp ihr =>
    intro q hq
    rcases List.mem_append.mp hq with hq | hq
    · exact ihp hp.1 q hq
    · exact ihr hp.2 q hq
  | times p least most ih =>
    intro q hq
    unfold Pattern.rests at hq
    split at hq
    · exact absurd hq List.not_mem_nil
    · obtain ⟨p', hp', rfl⟩ := List.mem_map.mp hq
      refine (ih hp.1 p' hp').andThen (hp.1.repeated fun m hm => ?_)
      obtain ⟨k, hk, rfl⟩ := Option.map_eq_some_iff.mp hm
      have hle := hp.2 k hk
      split <;> omega

end

/-! ## blank patterns -/

section
variable {r : List Char → List Char → List Char → Prop} {n : Nat} {before after : List Char}

theorem repeats_nil_iff : Repeats r n before [] after ↔ n = 0 ∨ r before [] after := by
  induction n with
  | zero => exact ⟨fun _ => .inl rfl, fun _ => rfl⟩
  | succ n ih =>
    constructor
    · rintro ⟨u, v, huv, hu, -⟩
      obtain ⟨rfl, rfl⟩ := List.append_eq_nil_iff.mp huv.symm
      exact .inr hu
    · rintro (h | h)
      · exact absurd h (Nat.succ_ne_zero n)
      · refine ⟨[], [], rfl, h, ?_⟩
        rw [List.append_nil]
        exact ih.mpr (.inr h)

/-- The first part that is not blank; parts before it are blank at the same place. -/
theorem repeats_cons_iff {c : Char} {part : List Char} :
    Repeats r n before (c :: part) after ↔
      ∃ k u v, k + 1 ≤ n ∧ (k + 1 = n ∨ r before [] (c :: part ++ after)) ∧ part = u ++ v ∧
        r before (c :: u) (v ++ after) ∧ Repeats r k (before ++ c :: u) v after := by
  induction n with
  | zero =>
    constructor
    · exact fun h => absurd h (List.cons_ne_nil c part)
    · rintro ⟨k, u, v, hk, -⟩
      exact absurd hk (Nat.not_succ_le_zero k)
  | succ n ih =>
    constructor
    · rintro ⟨u, v, huv, hu, hv⟩
      rcases List.cons_eq_append_iff.mp huv with ⟨rfl, rfl⟩ | ⟨u, rfl, rfl⟩
      · rw [List.append_nil] at hv
        obtain ⟨k, u, v, hk, -, h⟩ := ih.mp hv
        exact ⟨k, u, v, by omega, .inr hu, h⟩
      · exact ⟨n, u, v, Nat.le_refl _, .inl rfl, rfl, hu, hv⟩
    · rintro ⟨k, u, v, hk, hblank, hpart, hu, hv⟩
      by_cases hkn : k = n
      · exact ⟨c :: u, v, by rw [hpart, List.cons_append], hu, hkn ▸ hv⟩
      · have hr := hblank.resolve_left (by omega)
        refine ⟨[], c :: part, rfl, hr, ?_⟩
        rw [List.append_nil]
        exact ih.mpr ⟨k, u, v, by omega, .inr hr, hpart, hu, hv⟩

end

section
variable {p q : Pattern} {before part after : List Char}

theorem isBlankAt_iff (h : p.Orderly) :
    p.isBlankAt ⟨before.getLast?, after.head?⟩ = true ↔ p.Matches before [] after := by
  induction p with
  | blank => exact ⟨fun _ => rfl, fun _ => rfl⟩
  | one s => exact ⟨nofun, nofun⟩
  | edge e => exact ⟨fun h => ⟨rfl, h⟩, And.right⟩
  | both p q ihp ihq =>
    rw [isBlankAt, Bool.and_eq_true, ihp h.1, ihq h.2]
    constructor
    · rintro ⟨hp, hq⟩
      exact ⟨[], [], rfl, hp, by rwa [List.append_nil]⟩
    · rintro ⟨u, v, huv, hp, hq⟩
      obtain ⟨rfl, rfl⟩ := List.append_eq_nil_iff.mp huv.symm
      rw [List.append_nil] at hq
      exact ⟨hp, hq⟩
  | either p q ihp ihq =>
    rw [isBlankAt, Bool.or_eq_true, ihp h.1, ihq h.2]
    exact Iff.rfl
  | times p least most ih =>
    rw [isBlankAt, Bool.or_eq_true, ih h.1, decide_eq_true_eq]
    constructor
    · intro hblank
      exact ⟨least, Nat.le_refl _, h.2, repeats_nil_iff.mpr hblank⟩
    · rintro ⟨n, hn, -, hrep⟩
      rw [← Nat.le_zero]
      exact (repeats_nil_iff.mp hrep).imp_left fun hzero : n = 0 => hzero ▸ hn

/-! ## rests -/

theorem andThen_matches_iff :
    (p.andThen q).Matches before part after ↔ (both p q).Matches before part after := by
  unfold andThen
  split
  · next hp =>
    constructor
    · intro h
      exact ⟨[], part, rfl, hp ▸ rfl, by rwa [List.append_nil]⟩
    · rintro ⟨u, v, rfl, hu, hv⟩
      rw [hp] at hu
      obtain rfl : u = [] := hu
      rwa [List.append_nil] at hv
  · split
    · next hq =>
      constructor
      · intro h
        exact ⟨part, [], (List.append_nil part).symm, h, hq ▸ rfl⟩
      · rintro ⟨u, v, rfl, hu, hv⟩
        rw [hq] at hv
        obtain rfl : v = [] := hv
        rwa [List.append_nil]
    · exact Iff.rfl

theorem repeated_matches_iff {least : Nat} {most : Option Nat} (h : ∀ m ∈ most, least ≤ m) :
    (p.repeated least most).Matches before part after ↔
      (times p least most).Matches before part after := by
  unfold repeated
  split
  · next hmost =>
    constructor
    · intro hpart
      exact ⟨0, h 0 hmost, fun m _ => Nat.zero_le m, hpart⟩
    · rintro ⟨n, -, hn, hrep⟩
      obtain rfl := Nat.le_zero.mp (hn 0 hmost)
      exact hrep
  · exact Iff.rfl

/-- The rests of a pattern and what follows it, if `l` has the rests of the pattern. -/
theorem exists_andThen_iff {l : List Pattern} {c : Char}
    (h : ∀ u w, (∃ r ∈ l, r.Matches (before ++ [c]) u w) ↔ p.Matches before (c :: u) w) :
    (∃ r ∈ l.map (·.andThen q), r.Matches (before ++ [c]) part after) ↔
      ∃ u v, part = u ++ v ∧ p.Matches before (c :: u) (v ++ after) ∧
        q.Matches (before ++ c :: u) v after := by
  constructor
  · rintro ⟨s, hs, hmatch⟩
    obtain ⟨r, hr, rfl⟩ := List.mem_map.mp hs
    obtain ⟨u, v, rfl, hu, hv⟩ := andThen_matches_iff.mp hmatch
    rw [← List.append_cons] at hv
    exact ⟨u, v, rfl, (h _ _).mp ⟨r, hr, hu⟩, hv⟩
  · rintro ⟨u, v, rfl, hu, hv⟩
    obtain ⟨r, hr, hu⟩ := (h _ _).mpr hu
    rw [List.append_cons] at hv
    exact ⟨r.andThen q, List.mem_map_of_mem hr, andThen_matches_iff.mpr ⟨u, v, rfl, hu, hv⟩⟩

/-- A match that starts with a character goes on with a match of one of the rests. -/
theorem exists_rest_iff (h : p.Orderly) {c : Char} :
    (∃ q ∈ p.rests ⟨before.getLast?, some c⟩ c, q.Matches (before ++ [c]) part after) ↔
      p.Matches before (c :: part) after := by
  have hplace : ∀ {p : Pattern} {part after : List Char}, p.Orderly →
      (p.isBlankAt ⟨before.getLast?, some c⟩ = true ↔ p.Matches before [] (c :: part ++ after)) :=
    fun {_ part after} hp => @isBlankAt_iff _ before (c :: part ++ after) hp
  induction p generalizing part after with
  | blank | edge e => exact ⟨nofun, nofun⟩
  | one s =>
    by_cases hc : s.contains c = true
    · rw [rests, if_pos hc]
      constructor
      · rintro ⟨q, hq, hpart⟩
        rw [List.mem_singleton.mp hq] at hpart
        exact ⟨c, congrArg (c :: ·) hpart, hc⟩
      · rintro ⟨d, hd, -⟩
        exact ⟨blank, List.mem_cons_self, (List.cons.inj hd).2⟩
    · rw [rests, if_neg hc]
      constructor
      · exact nofun
      · rintro ⟨d, hd, hcontains⟩
        exact absurd ((List.cons.inj hd).1 ▸ hcontains) hc
  | both p q ihp ihq =>
    have hrests : (∃ r ∈ (both p q).rests ⟨before.getLast?, some c⟩ c,
          r.Matches (before ++ [c]) part after) ↔
        (∃ r ∈ (p.rests ⟨before.getLast?, some c⟩ c).map (·.andThen q),
            r.Matches (before ++ [c]) part after) ∨
          p.isBlankAt ⟨before.getLast?, some c⟩ = true ∧
            ∃ r ∈ q.rests ⟨before.getLast?, some c⟩ c, r.Matches (before ++ [c]) part after := by
      simp only [rests, List.mem_append, or_and_right, exists_or]
      refine or_congr_right ?_
      split
      · next hblank => rw [hblank, eq_self, true_and]
      · next hblank => exact ⟨nofun, fun hr => absurd hr.1 hblank⟩
    rw [hrests, exists_andThen_iff fun u w => ihp h.1, hplace h.1]
    refine (or_congr_right (and_congr_right fun _ => ihq h.2)).trans ?_
    constructor
    · rintro (⟨u, v, rfl, hu, hv⟩ | ⟨hu, hv⟩)
      · exact ⟨c :: u, v, rfl, hu, hv⟩
      · exact ⟨[], c :: part, rfl, hu, by rwa [List.append_nil]⟩
    · rintro ⟨u, v, huv, hu, hv⟩
      rcases List.cons_eq_append_iff.mp huv with ⟨rfl, rfl⟩ | ⟨u, rfl, rfl⟩
      · rw [List.append_nil] at hv
        exact .inr ⟨hu, hv⟩
      · exact .inl ⟨u, v, rfl, hu, hv⟩
  | either p q ihp ihq =>
    simp only [rests, List.mem_append, or_and_right, exists_or]
    exact or_congr (ihp h.1) (ihq h.2)
  | times p least most ih =>
    by_cases hmost : most = some 0
    · rw [rests, if_pos hmost]
      constructor
      · exact nofun
      · rintro ⟨n, -, hn, hrep⟩
        rw [Nat.le_zero.mp (hn 0 hmost)] at hrep
        exact absurd hrep (List.cons_ne_nil c part)
    have hone : ∀ m ∈ most, 1 ≤ m := fun m hm =>
      Nat.one_le_iff_ne_zero.mpr fun hzero => hmost (hzero ▸ hm)
    have hle : ∀ m ∈ most.map (· - 1),
        (if p.isBlankAt ⟨before.getLast?, some c⟩ then 0 else least - 1) ≤ m := by
      intro m hm
      obtain ⟨k, hk, rfl⟩ := Option.map_eq_some_iff.mp hm
      have := h.2 k hk
      split <;> omega
    simp only [rests, if_neg hmost]
    rw [exists_andThen_iff fun u w => ih h.1]
    constructor
    · rintro ⟨u, v, rfl, hu, hv⟩
      obtain ⟨k, hk, hkmost, hrep⟩ := (repeated_matches_iff hle).mp hv
      have hkmost : ∀ m ∈ most, k + 1 ≤ m := fun m hm => by
        have hkm := hkmost (m - 1) (Option.mem_map_of_mem _ hm)
        have hm := hone m hm
        omega
      by_cases hblank : p.isBlankAt ⟨before.getLast?, some c⟩ = true
      · -- as many blank parts as are still needed, and then the others
        refine ⟨max least (k + 1), Nat.le_max_left .., fun m hm => ?_, ?_⟩
        · exact Nat.max_le.mpr ⟨h.2 m hm, hkmost m hm⟩
        · exact repeats_cons_iff.mpr
            ⟨k, u, v, Nat.le_max_right .., .inr ((hplace h.1).mp hblank), rfl, hu, hrep⟩
      · rw [if_neg hblank] at hk
        exact ⟨k + 1, by omega, hkmost,
          repeats_cons_iff.mpr ⟨k, u, v, Nat.le_refl _, .inl rfl, rfl, hu, hrep⟩⟩
    · rintro ⟨n, hn, hnmost, hrep⟩
      obtain ⟨k, u, v, hk, hblank, rfl, hu, hv⟩ := repeats_cons_iff.mp hrep
      refine ⟨u, v, rfl, hu, (repeated_matches_iff hle).mpr ⟨k, ?_, ?_, hv⟩⟩
      · split
        · exact Nat.zero_le k
        · next hnot =>
          have := hblank.resolve_right fun hb => hnot ((hplace h.1).mpr hb)
          omega
      · intro m hm
        obtain ⟨j, hj, rfl⟩ := Option.map_eq_some_iff.mp hm
        exact Nat.le_sub_one_of_lt (Nat.le_trans hk (hnmost j hj))

/-! ## the search -/

/-- A match starts here. -/
def Starts (p : Pattern) (before text : List Char) : Prop :=
  ∃ part after, text = part ++ after ∧ p.Matches before part after

theorem starts_nil_iff (h : p.Orderly) :
    p.Starts before [] ↔ p.isBlankAt ⟨before.getLast?, none⟩ = true := by
  refine Iff.trans ?_ (@isBlankAt_iff _ before [] h).symm
  constructor
  · rintro ⟨part, after, htext, hp⟩
    obtain ⟨rfl, rfl⟩ := List.append_eq_nil_iff.mp htext.symm
    exact hp
  · exact fun hp => ⟨[], [], rfl, hp⟩

theorem starts_cons_iff (h : p.Orderly) {c : Char} {cs : List Char} :
    p.Starts before (c :: cs) ↔ p.isBlankAt ⟨before.getLast?, some c⟩ = true ∨
      ∃ q ∈ p.rests ⟨before.getLast?, some c⟩ c, q.Starts (before ++ [c]) cs := by
  have hblank : p.isBlankAt ⟨before.getLast?, some c⟩ = true ↔ p.Matches before [] (c :: cs) :=
    @isBlankAt_iff _ before (c :: cs) h
  rw [hblank]
  constructor
  · rintro ⟨part, after, htext, hp⟩
    rcases List.cons_eq_append_iff.mp htext with ⟨rfl, rfl⟩ | ⟨part, rfl, rfl⟩
    · exact .inl hp
    · obtain ⟨q, hq, hmatch⟩ := (exists_rest_iff h).mpr hp
      exact .inr ⟨q, hq, part, after, rfl, hmatch⟩
  · rintro (hp | ⟨q, hq, part, after, rfl, hmatch⟩)
    · exact ⟨[], c :: cs, rfl, hp⟩
    · exact ⟨c :: part, after, rfl, (exists_rest_iff h).mp ⟨q, hq, hmatch⟩⟩

theorem exists_starts_cons_iff {l : List Pattern} (h : ∀ q ∈ l, q.Orderly) {c : Char}
    {cs : List Char} : (l.any (·.isBlankAt ⟨before.getLast?, some c⟩) = true ∨
        ∃ r ∈ l.flatMap (·.rests ⟨before.getLast?, some c⟩ c), r.Starts (before ++ [c]) cs) ↔
      ∃ q ∈ l, q.Starts before (c :: cs) := by
  rw [List.any_eq_true]
  constructor
  · rintro (⟨q, hq, hblank⟩ | ⟨r, hr, hstarts⟩)
    · exact ⟨q, hq, (starts_cons_iff (h q hq)).mpr (.inl hblank)⟩
    · obtain ⟨q, hq, hr⟩ := List.mem_flatMap.mp hr
      exact ⟨q, hq, (starts_cons_iff (h q hq)).mpr (.inr ⟨r, hr, hstarts⟩)⟩
  · rintro ⟨q, hq, hstarts⟩
    rcases (starts_cons_iff (h q hq)).mp hstarts with hblank | ⟨r, hr, hstarts⟩
    · exact .inl ⟨q, hq, hblank⟩
    · exact .inr ⟨r, List.mem_flatMap.mpr ⟨q, hq, hr⟩, hstarts⟩

/-- A match starts here or later. -/
def Occurs (p : Pattern) (before text : List Char) : Prop :=
  ∃ skipped rest, text = skipped ++ rest ∧ p.Starts (before ++ skipped) rest

theorem occurs_nil_iff : p.Occurs before [] ↔ p.Starts before [] := by
  constructor
  · rintro ⟨skipped, rest, htext, hp⟩
    obtain ⟨rfl, rfl⟩ := List.append_eq_nil_iff.mp htext.symm
    rwa [List.append_nil] at hp
  · exact fun hp => ⟨[], [], rfl, by rwa [List.append_nil]⟩

theorem occurs_cons_iff {c : Char} {cs : List Char} :
    p.Occurs before (c :: cs) ↔ p.Starts before (c :: cs) ∨ p.Occurs (before ++ [c]) cs := by
  constructor
  · rintro ⟨skipped, rest, htext, hp⟩
    rcases List.cons_eq_append_iff.mp htext with ⟨rfl, rfl⟩ | ⟨skipped, rfl, rfl⟩
    · rw [List.append_nil] at hp
      exact .inl hp
    · rw [List.append_cons] at hp
      exact .inr ⟨skipped, rest, rfl, hp⟩
  · rintro (hp | ⟨skipped, rest, rfl, hp⟩)
    · exact ⟨[], c :: cs, rfl, by rwa [List.append_nil]⟩
    · rw [← List.append_cons] at hp
      exact ⟨c :: skipped, rest, rfl, hp⟩

/-- The matches that have started go on here, or another one starts. -/
theorem occursFrom_iff (h : p.Orderly) {started : List Pattern} (hs : ∀ q ∈ started, q.Orderly)
    {text : List Char} : p.occursFrom before.getLast? started text = true ↔
      (∃ q ∈ started, q.Starts before text) ∨ p.Occurs before text := by
  induction text generalizing before started with
  | nil =>
    rw [occursFrom, List.any_cons, Bool.or_eq_true, List.any_eq_true, occurs_nil_iff,
      starts_nil_iff h, or_comm]
    refine or_congr_left (exists_congr fun q => and_congr_right fun hq => ?_)
    exact (starts_nil_iff (hs q hq)).symm
  | cons c cs ih =>
    have hall : ∀ q ∈ (p :: started).eraseDups, q.Orderly := by
      intro q hq
      rcases List.mem_cons.mp (List.mem_eraseDups.mp hq) with rfl | hq
      · exact h
      · exact hs q hq
    have hnext := @ih (before ++ [c])
      ((p :: started).eraseDups.flatMap (·.rests ⟨before.getLast?, some c⟩ c)) fun r hr => by
        obtain ⟨q, hq, hr⟩ := List.mem_flatMap.mp hr
        exact (hall q hq).rests r hr
    rw [List.getLast?_concat] at hnext
    rw [occursFrom, Bool.or_eq_true, hnext, occurs_cons_iff, ← or_assoc, ← or_assoc,
      exists_starts_cons_iff hall]
    refine or_congr_left ?_
    simp only [List.mem_eraseDups, List.mem_cons, exists_eq_or_imp, or_comm]

/-- The search finds a match if there is one. -/
theorem occursIn_iff (h : p.Orderly) {text : List Char} : p.occursIn text = true ↔
    ∃ before part after, text = before ++ part ++ after ∧ p.Matches before part after := by
  refine (@occursFrom_iff p [] h [] nofun text).trans ?_
  constructor
  · rintro (⟨q, hq, -⟩ | ⟨before, rest, rfl, part, after, rfl, hp⟩)
    · exact absurd hq List.not_mem_nil
    · exact ⟨before, part, after, (List.append_assoc ..).symm, hp⟩
  · rintro ⟨before, part, after, rfl, hp⟩
    exact .inr ⟨before, part ++ after, List.append_assoc .., part, after, rfl, hp⟩

end

end Pattern
end Text
end FireflyOverlay
