/-!
# Chunks of an image file

A file is a signature and a sequence of chunks: the length of the data, a kind of four letters, the
data, and a check sum of kind and data.

* `Chunk.read?`       the first chunk of some bytes, and what follows;
* `Chunk.readAll`     the whole chunks at the front, and what follows them;
* `Chunk.isSound`     the check sum agrees;
* `Chunk.isCritical`  the image cannot be read without this chunk: its kind begins with a capital.
-/

namespace FireflyOverlay
namespace Png

def signature : List UInt8 := [0x89, 0x50, 0x4e, 0x47, 0x0d, 0x0a, 0x1a, 0x0a]

/-- The number that some bytes spell, the highest first. -/
def number (bytes : List UInt8) : Nat := bytes.foldl (fun n b => 256 * n + b.toNat) 0

/-! ## check sums -/

/-- One step of the division by the check sum polynomial. -/
def sumStep (sum : UInt32) : UInt32 :=
  if sum &&& 1 = 1 then (sum >>> 1) ^^^ 0xedb88320 else sum >>> 1

def sumByte (sum : UInt32) (b : UInt8) : UInt32 := Nat.repeat sumStep 8 (sum ^^^ b.toUInt32)

def checkSum (bytes : List UInt8) : UInt32 := bytes.foldl sumByte 0xffffffff ^^^ 0xffffffff

/-! ## chunks -/

structure Chunk where
  kind : List UInt8
  data : List UInt8
  sum : Nat
deriving DecidableEq, Repr

namespace Chunk

def named (name : String) : List UInt8 := name.toList.map fun c => c.toNat.toUInt8

def isSound (c : Chunk) : Bool := (checkSum (c.kind ++ c.data)).toNat == c.sum

def isCritical (c : Chunk) : Bool := c.kind.head?.any fun b => b &&& 0x20 == 0

/-- The first bytes, if there are enough. -/
def take? (n : Nat) (bytes : List UInt8) : Option (List UInt8 × List UInt8) :=
  if n ≤ bytes.length then some (bytes.take n, bytes.drop n) else none

def read? (bytes : List UInt8) : Option (Chunk × List UInt8) := do
  let (length, bytes) ← take? 4 bytes
  let (kind, bytes) ← take? 4 bytes
  let (data, bytes) ← take? (number length) bytes
  let (sum, bytes) ← take? 4 bytes
  return (⟨kind, data, number sum⟩, bytes)

theorem length_of_take? {n : Nat} {bytes front rest : List UInt8}
    (h : take? n bytes = some (front, rest)) : rest.length + n = bytes.length := by
  rw [take?] at h
  split at h
  · simp only [Option.some.injEq, Prod.mk.injEq] at h
    rw [← h.2, List.length_drop]
    omega
  · simp at h

theorem length_of_read? {bytes rest : List UInt8} {c : Chunk}
    (h : read? bytes = some (c, rest)) : rest.length < bytes.length := by
  simp only [read?, Option.bind_eq_bind, Option.bind_eq_some_iff, Prod.exists] at h
  obtain ⟨_, r₁, h₁, _, r₂, h₂, _, r₃, h₃, _, r₄, h₄, h⟩ := h
  simp only [Option.pure_def, Option.some.injEq, Prod.mk.injEq] at h
  have := length_of_take? h₁
  have := length_of_take? h₂
  have := length_of_take? h₃
  have := length_of_take? h₄
  rw [← h.2]
  omega

def readAll (bytes : List UInt8) : List Chunk × List UInt8 :=
  match h : read? bytes with
  | none => ([], bytes)
  | some (c, rest) =>
    have := length_of_read? h
    let (chunks, rest) := readAll rest
    (c :: chunks, rest)
termination_by bytes.length

end Chunk
end Png
end FireflyOverlay
