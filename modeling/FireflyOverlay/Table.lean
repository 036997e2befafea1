/-!
# Tables

Objects by number, in the order in which they were made.

* `Table.find?`    the object of a number;
* `Table.insert`   a new object at the end;
* `Table.modify`, `Table.erase`   change or drop the object of a number, and no other;
* `Table.revise`   changes every object, each by its number.
-/

namespace FireflyOverlay

abbrev Table (β : Type) := List (Nat × β)

namespace Table

variable {β : Type}

def find? (t : Table β) (n : Nat) : Option β := (List.find? (·.1 = n) t).map (·.2)

def contains (t : Table β) (n : Nat) : Bool := (t.find? n).isSome

def insert (t : Table β) (n : Nat) (b : β) : Table β := t ++ [(n, b)]

def modify (t : Table β) (n : Nat) (f : β → β) : Table β :=
  t.map fun e => if e.1 = n then (e.1, f e.2) else e

def erase (t : Table β) (n : Nat) : Table β := t.filter (·.1 ≠ n)

def revise (t : Table β) (f : Nat → β → β) : Table β := t.map fun e => (e.1, f e.1 e.2)

/-- The numbers in use. -/
def keys (t : Table β) : List Nat := t.map (·.1)

theorem find?_nil (n : Nat) : find? ([] : Table β) n = none := rfl

theorem find?_cons (e : Nat × β) (t : Table β) (n : Nat) :
    find? (e :: t) n = if e.1 = n then some e.2 else find? t n := by
  by_cases h : e.1 = n <;> simp [find?, h]

theorem contains_of_none {t : Table β} {n : Nat} (h : t.find? n = none) : t.contains n = false := by
  rw [contains, h]
  rfl

theorem contains_of_some {t : Table β} {n : Nat} {b : β} (h : t.find? n = some b) :
    t.contains n = true := by
  rw [contains, h]
  rfl

theorem find?_of_not_contains {t : Table β} {n : Nat} (h : t.contains n = false) :
    t.find? n = none := by
  rwa [contains, Option.isSome_eq_false_iff, Option.isNone_iff_eq_none] at h

theorem contains_iff {t : Table β} {n : Nat} : t.contains n = true ↔ ∃ b, t.find? n = some b :=
  Option.isSome_iff_exists

theorem contains_iff_mem {t : Table β} {n : Nat} : t.contains n = true ↔ n ∈ t.keys := by
  simp [contains, find?, keys]

theorem mem_keys_of_find? {t : Table β} {n : Nat} {b : β} (h : t.find? n = some b) : n ∈ t.keys :=
  contains_iff_mem.mp (contains_of_some h)

@[simp] theorem keys_modify (t : Table β) (n : Nat) (f : β → β) : (t.modify n f).keys = t.keys := by
  induction t with
  | nil => rfl
  | cons e t ih =>
    simp only [modify, keys, List.map_cons, List.map_map] at ih ⊢
    rw [ih]
    by_cases h : e.1 = n <;> simp [h]

theorem mem_keys_erase {t : Table β} {n k : Nat} (h : k ∈ (t.erase n).keys) : k ∈ t.keys := by
  obtain ⟨e, he, rfl⟩ := List.mem_map.mp h
  exact List.mem_map_of_mem (List.mem_filter.mp he).1

theorem modify_modify (t : Table β) (n : Nat) (f g : β → β) :
    (t.modify n f).modify n g = t.modify n fun b => g (f b) := by
  rw [modify, modify, List.map_map]
  refine List.map_congr_left fun e _ => ?_
  by_cases h : e.1 = n <;> simp [h]

theorem modify_id (t : Table β) (n : Nat) : (t.modify n fun b => b) = t := by
  refine (List.map_congr_left fun e _ => ?_).trans (List.map_id t)
  show (if e.1 = n then (e.1, e.2) else e) = e
  split <;> rfl

/-! ### numbers used once -/

theorem find?_of_mem {t : Table β} (h : t.keys.Nodup) {e : Nat × β} (he : e ∈ t) :
    t.find? e.1 = some e.2 := by
  induction t with
  | nil => cases he
  | cons d t ih =>
    obtain ⟨hd, ht⟩ := List.nodup_cons.mp h
    rw [find?_cons]
    rcases List.mem_cons.mp he with rfl | he
    · exact if_pos rfl
    · have hne : ¬ d.1 = e.1 := fun hde => by
        have hmem : e.1 ∈ keys t := List.mem_map_of_mem he
        rw [← hde] at hmem
        exact hd hmem
      rw [if_neg hne]
      exact ih ht he

/-- A change depends on what it makes of the object of the number. -/
theorem modify_congr {t : Table β} (h : t.keys.Nodup) {n : Nat} {b : β}
    (hb : t.find? n = some b) {f g : β → β} (hf : f b = g b) : t.modify n f = t.modify n g := by
  refine List.map_congr_left fun e he => ?_
  split
  · next hn =>
    have hself : some e.2 = some b := (find?_of_mem h he).symm.trans (hn ▸ hb)
    rw [Option.some.inj hself, hf]
  · rfl

/-- A change of a number that is not in use changes nothing. -/
theorem modify_of_none {t : Table β} {n : Nat} (h : t.find? n = none) (f : β → β) :
    t.modify n f = t := by
  have hn : n ∉ t.keys := fun hmem => by
    rw [← contains_iff_mem, contains_of_none h] at hmem
    cases hmem
  refine (List.map_congr_left fun e he => ?_).trans (List.map_id t)
  have hne : ¬ e.1 = n := fun hen => hn (hen ▸ List.mem_map_of_mem he)
  exact if_neg hne

/-! ### a new number -/

theorem keys_insert (t : Table β) (n : Nat) (b : β) : (t.insert n b).keys = t.keys ++ [n] := by
  rw [insert, keys, List.map_append]
  rfl

theorem find?_insert {t : Table β} {n : Nat} (h : n ∉ t.keys) (b : β) :
    (t.insert n b).find? n = some b := by
  have hn : List.find? (fun e => decide (e.1 = n)) t = none := by
    rw [List.find?_eq_none]
    intro e he hd
    exact h (of_decide_eq_true hd ▸ List.mem_map_of_mem he)
  rw [find?, insert, List.find?_append, hn]
  simp

theorem find?_insert_ne {n k : Nat} (h : k ≠ n) (t : Table β) (b : β) :
    (t.insert n b).find? k = t.find? k := by
  have hk : (n = k) = False := eq_false (Ne.symm h)
  simp [find?, insert, List.find?_append, hk]

theorem modify_insert {t : Table β} {n : Nat} (h : n ∉ t.keys) (b : β) (f : β → β) :
    (t.insert n b).modify n f = t.insert n (f b) := by
  have ht : t.map (fun e => if e.1 = n then (e.1, f e.2) else e) = t := by
    refine (List.map_congr_left fun e he => ?_).trans (List.map_id t)
    have hn : ¬ e.1 = n := fun hn => h (hn ▸ List.mem_map_of_mem he)
    exact if_neg hn
  rw [modify, insert, List.map_append, ht]
  simp [insert]

theorem erase_insert {t : Table β} {n : Nat} (h : n ∉ t.keys) (b : β) :
    (t.insert n b).erase n = t := by
  have ht : t.filter (fun e => decide (e.1 ≠ n)) = t := by
    rw [List.filter_eq_self]
    intro e he
    exact decide_eq_true fun hn => h (hn ▸ List.mem_map_of_mem he)
  rw [erase, insert, List.filter_append, ht]
  simp

/-! ### other numbers -/

theorem find?_modify (t : Table β) (n k : Nat) (f : β → β) :
    (t.modify n f).find? k = if k = n then (t.find? k).map f else t.find? k := by
  induction t with
  | nil => simp [modify, find?]
  | cons e t ih =>
    have hc : modify (e :: t) n f = (if e.1 = n then (e.1, f e.2) else e) :: modify t n f := rfl
    rw [hc, find?_cons, find?_cons, ih]
    by_cases h : e.1 = n <;> by_cases hk : e.1 = k <;> by_cases hkn : k = n <;> simp_all

theorem find?_modify_some {t : Table β} {n : Nat} {b : β} (h : t.find? n = some b) (f : β → β)
    (k : Nat) : (t.modify n f).find? k = if k = n then some (f b) else t.find? k := by
  rw [find?_modify]
  split
  · next hk =>
    rw [hk, h]
    rfl
  · rfl

theorem find?_modify_self {t : Table β} {n : Nat} {b : β} (h : t.find? n = some b) (f : β → β) :
    (t.modify n f).find? n = some (f b) := (find?_modify_some h f n).trans (if_pos rfl)

theorem find?_erase (t : Table β) (n k : Nat) :
    (t.erase n).find? k = if k = n then none else t.find? k := by
  induction t with
  | nil => simp [erase, find?]
  | cons e t ih =>
    by_cases h : e.1 = n
    · have hc : erase (e :: t) n = erase t n := by simp [erase, h]
      rw [hc, ih, find?_cons]
      by_cases hk : k = n
      · simp [hk]
      · have : ¬ e.1 = k := by omega
        simp [hk, this]
    · have hc : erase (e :: t) n = e :: erase t n := by simp [erase, h]
      rw [hc, find?_cons, find?_cons, ih]
      by_cases hk : e.1 = k <;> by_cases hkn : k = n <;> simp_all

/-! ### what was there before -/

theorem find?_of_insert {t : Table β} {n k : Nat} {b x : β} (hn : n ∉ t.keys)
    (h : (t.insert n b).find? k = some x) : k = n ∧ x = b ∨ t.find? k = some x := by
  by_cases hk : k = n
  · rw [hk, find?_insert hn] at h
    exact .inl ⟨hk, (Option.some.inj h).symm⟩
  · rw [find?_insert_ne hk] at h
    exact .inr h

theorem find?_of_modify (t : Table β) (f : β → β) {n k : Nat} {x : β}
    (h : (t.modify n f).find? k = some x) :
    ∃ b, t.find? k = some b ∧ (k = n ∧ x = f b ∨ k ≠ n ∧ x = b) := by
  rw [find?_modify] at h
  split at h
  · next hk =>
    obtain ⟨b, hb, rfl⟩ := Option.map_eq_some_iff.mp h
    exact ⟨b, hb, .inl ⟨hk, rfl⟩⟩
  · next hk => exact ⟨x, h, .inr ⟨hk, rfl⟩⟩

theorem find?_of_erase {t : Table β} {n k : Nat} {x : β} (h : (t.erase n).find? k = some x) :
    t.find? k = some x := by
  rw [find?_erase] at h
  split at h
  · cases h
  · exact h

theorem exists_find?_modify {t : Table β} {k : Nat} {b : β} (h : t.find? k = some b) (n : Nat)
    (f : β → β) : ∃ x, (t.modify n f).find? k = some x := by
  rw [find?_modify, h]
  split <;> exact ⟨_, rfl⟩

/-! ### every object -/

theorem find?_revise (t : Table β) (f : Nat → β → β) (n : Nat) :
    (t.revise f).find? n = (t.find? n).map (f n) := by
  induction t with
  | nil => rfl
  | cons e t ih =>
    have hc : revise (e :: t) f = (e.1, f e.1 e.2) :: revise t f := rfl
    rw [hc, find?_cons, find?_cons, ih]
    split
    · next he => rw [← he]; rfl
    · rfl

theorem revise_insert (t : Table β) (f : Nat → β → β) (n : Nat) (b : β) :
    (t.insert n b).revise f = (t.revise f).insert n (f n b) := List.map_append

theorem revise_erase (t : Table β) (f : Nat → β → β) (n : Nat) :
    (t.erase n).revise f = (t.revise f).erase n := by
  rw [erase, revise, revise, erase, List.filter_map]
  rfl

/-- Of the objects with other numbers, both revisions make the same. -/
theorem revise_modify (t : Table β) {f f' : Nat → β → β} {n : Nat} {g g' : β → β}
    (hn : ∀ b, f' n (g b) = g' (f n b)) (hk : ∀ k, k ≠ n → f' k = f k) :
    (t.modify n g).revise f' = (t.revise f).modify n g' := by
  rw [revise, modify, modify, revise, List.map_map, List.map_map]
  refine List.map_congr_left fun e _ => ?_
  by_cases he : e.1 = n
  · simp [he, hn]
  · simp [he, hk e.1 he]

/-! ### numbers in use -/

@[simp] theorem contains_revise (t : Table β) (f : Nat → β → β) (n : Nat) :
    (t.revise f).contains n = t.contains n := by
  rw [contains, find?_revise, contains, Option.isSome_map]

theorem contains_insert_ne {n k : Nat} (h : k ≠ n) (t : Table β) (b : β) :
    (t.insert n b).contains k = t.contains k := by
  rw [contains, find?_insert_ne h, contains]

@[simp] theorem contains_modify (t : Table β) (n k : Nat) (f : β → β) :
    (t.modify n f).contains k = t.contains k := by
  rw [contains, find?_modify, contains]
  split
  · exact Option.isSome_map
  · rfl

theorem contains_erase (t : Table β) (n k : Nat) :
    (t.erase n).contains k = if k = n then false else t.contains k := by
  rw [contains, find?_erase, contains]
  split <;> rfl

end Table
end FireflyOverlay
