import FireflyOverlay.Deflate.Bits

/-!
# Canonical prefix codes

A code gives each symbol a bit string, of which none begins another.  It is determined by the
lengths alone: shorter strings come first, and strings of one length go to the symbols in order.

* `Code.groups`      for each length from 1 on, the symbols with a string of this length;
* `Code.ofLengths?`  the code of some lengths, if no string is left over and none is missing;
* `Code.decode`      the symbol at the front of a bit stream.
-/

namespace FireflyOverlay

structure Code where
  groups : List (Array Nat)

namespace Code

/-- No string is longer. -/
def maxLength : Nat := 15

/-- The symbols with a string of length `n`, in order; `lengths` lists the length of every symbol,
and 0 where a symbol has no string. -/
def symbolsOfLength (lengths : List Nat) (n : Nat) : Array Nat :=
  (lengths.zipIdx.filterMap fun (l, symbol) => if l = n then some symbol else none).toArray

def ofLengths (lengths : List Nat) : Code :=
  ⟨(List.range' 1 maxLength).map (symbolsOfLength lengths)⟩

/-- The strings of the code, counted in strings of the greatest length. -/
def taken (c : Code) : Nat :=
  c.groups.zipIdx.foldl (fun sum (g, i) => sum + g.size <<< (maxLength - 1 - i)) 0

/-- Every long bit string begins with exactly one string of the code. -/
def isComplete (c : Code) : Bool := c.taken == 1 <<< maxLength

/-- The number of symbols with a string. -/
def size (c : Code) : Nat := c.groups.foldl (fun sum g => sum + g.size) 0

def ofLengths? (lengths : List Nat) : Option Code :=
  let c := ofLengths lengths
  if c.isComplete then some c else none

/-- A code for distances may also be empty, or have one string of one bit. -/
def ofDistanceLengths? (lengths : List Nat) : Option Code :=
  let c := ofLengths lengths
  if c.isComplete || c.size == 0 || (c.size == 1 && c.taken == 1 <<< (maxLength - 1)) then some c
  else none

/-- Reads on, one bit for each length: `word` is the number read so far, `first` the number of the
first string of that length. -/
def search : List (Array Nat) → Nat → Nat → Bits → Except BitsFault (Nat × Bits)
  | [], _, _, _ => .error .malformed
  | _ :: _, _, _, [] => .error .short
  | g :: groups, word, first, b :: bits =>
    let word := 2 * word + b.toNat
    let first := 2 * first
    if word < first + g.size then .ok (g.getD (word - first) 0, bits)
    else search groups word (first + g.size) bits

def decode (c : Code) (bits : Bits) : Except BitsFault (Nat × Bits) := search c.groups 0 0 bits

theorem length_of_search {groups : List (Array Nat)} {word first symbol : Nat} {bits rest : Bits}
    (h : search groups word first bits = .ok (symbol, rest)) : rest.length < bits.length := by
  induction groups generalizing word first bits rest with
  | nil => simp [search] at h
  | cons g groups ih =>
    cases bits with
    | nil => simp [search] at h
    | cons b bits =>
      rw [search] at h
      split at h
      · simp only [Except.ok.injEq, Prod.mk.injEq] at h
        rw [← h.2]
        exact Nat.lt_succ_self _
      · have := ih h
        simp only [List.length_cons]
        omega

/-- Reading a symbol takes at least one bit. -/
theorem length_of_decode {c : Code} {symbol : Nat} {bits rest : Bits}
    (h : c.decode bits = .ok (symbol, rest)) : rest.length < bits.length :=
  length_of_search h

end Code
end FireflyOverlay
