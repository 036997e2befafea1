/-!
# Bit streams

A packed stream is read bit by bit, the lowest bit of each byte first.

* `Bits.ofBytes`    the bits of some bytes;
* `Bits.number`     a number of a given width, its lowest bit first;
* `Bits.align`      skips to the next whole byte: as the stream ends with a byte, the bits of a
                    started byte are those beyond a multiple of eight.

Each reader returns the rest of the stream, which is never longer, or fails: a stream that is `short`
could still be the front of a sound one.
-/

namespace FireflyOverlay

abbrev Bits := List Bool

inductive BitsFault where
  | short
  | malformed
deriving DecidableEq, Repr

namespace BitsFault

theorem bind_eq_ok {α β : Type} {x : Except BitsFault α} {f : α → Except BitsFault β} {b : β} :
    x >>= f = .ok b ↔ ∃ a, x = .ok a ∧ f a = .ok b := by
  cases x <;> simp [bind, Except.bind]

theorem pure_eq_ok {α : Type} {a b : α} : (pure a : Except BitsFault α) = .ok b ↔ a = b := by
  simp [pure, Except.pure]

end BitsFault

namespace Bits

open BitsFault

def ofByte (b : UInt8) : Bits := (List.range 8).map fun i => b.toNat.testBit i

def ofBytes (bytes : List UInt8) : Bits := bytes.flatMap ofByte

def number : Nat → Bits → Except BitsFault (Nat × Bits)
  | 0, bits => .ok (0, bits)
  | _ + 1, [] => .error .short
  | n + 1, b :: bits => do
    let (rest, bits) ← number n bits
    return (b.toNat + 2 * rest, bits)

def align (bits : Bits) : Bits := bits.drop (bits.length % 8)

/-- A number of whole bytes. -/
def bytes : Nat → Bits → Except BitsFault (List UInt8 × Bits)
  | 0, bits => .ok ([], bits)
  | n + 1, bits => do
    let (b, bits) ← number 8 bits
    let (rest, bits) ← bytes n bits
    return (b.toUInt8 :: rest, bits)

theorem length_of_number {n : Nat} {bits rest : Bits} {v : Nat}
    (h : number n bits = .ok (v, rest)) : rest.length + n = bits.length := by
  induction n generalizing bits v rest with
  | zero => simp [number] at h; simp [h.2]
  | succ n ih =>
    cases bits with
    | nil => simp [number] at h
    | cons b bits =>
      simp only [number, bind_eq_ok, Prod.exists, pure_eq_ok, Prod.mk.injEq] at h
      obtain ⟨w, r, hw, -, hr⟩ := h
      have := ih hw
      simp only [← hr, List.length_cons]
      omega

theorem length_of_bytes {n : Nat} {bits rest : Bits} {v : List UInt8}
    (h : bytes n bits = .ok (v, rest)) : rest.length + 8 * n = bits.length := by
  induction n generalizing bits v rest with
  | zero => simp [bytes] at h; simp [h.2]
  | succ n ih =>
    simp only [bytes, bind_eq_ok, Prod.exists, pure_eq_ok, Prod.mk.injEq] at h
    obtain ⟨b, r, hb, v', r', hv, -, hr⟩ := h
    have h1 := length_of_number hb
    have h2 := ih hv
    rw [← hr]
    omega

theorem length_align_le (bits : Bits) : bits.align.length ≤ bits.length := by simp [align]

end Bits
end FireflyOverlay
