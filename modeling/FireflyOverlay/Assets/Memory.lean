import FireflyOverlay.Assets

/-!
# Assets in memory

Named bytes.  The last bytes that were inserted under a name are the ones that are read
(`MemoryAssets.read_insert`).
-/

namespace FireflyOverlay

structure MemoryAssets where
  entries : List (String × Array UInt8)
deriving DecidableEq

namespace MemoryAssets

def empty : MemoryAssets := ⟨[]⟩

def insert (m : MemoryAssets) (name : String) (bytes : Array UInt8) : MemoryAssets :=
  ⟨(name, bytes) :: m.entries.filter (·.1 ≠ name)⟩

def read (m : MemoryAssets) : AssetStore := fun name =>
  match m.entries.lookup name with
  | some bytes => .ok bytes
  | none => .error (.notFound name)

theorem lookup_filter_ne {β : Type} (entries : List (String × β)) {name other : String}
    (h : other ≠ name) :
    (entries.filter (·.1 ≠ name)).lookup other = entries.lookup other := by
  induction entries with
  | nil => rfl
  | cons e entries ih =>
    by_cases he : e.1 = name
    · have ho : (other == e.1) = false := by
        rw [he]
        exact beq_eq_false_iff_ne.2 h
      rw [List.filter_cons_of_neg (by simp [he]), List.lookup_cons, ho, ih]
    · rw [List.filter_cons_of_pos (by simp [he]), List.lookup_cons, List.lookup_cons, ih]

theorem read_insert (m : MemoryAssets) (name other : String) (bytes : Array UInt8) :
    (m.insert name bytes).read other = if other = name then .ok bytes else m.read other := by
  by_cases h : other = name
  · simp [insert, read, h]
  · have ho : (other == name) = false := beq_eq_false_iff_ne.2 h
    rw [if_neg h, read, read, insert, List.lookup_cons, ho, lookup_filter_ne m.entries h]

end MemoryAssets
end FireflyOverlay
