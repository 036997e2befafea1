import FireflyOverlay.Scalar

/-!
# Random units

`Units` is a stream of random numbers from 0 up to 1, read from the front.  It keeps how many
have been read, so that two readers of one stream can be compared by their positions.

* `Units.next`       the next unit, and the stream after it;
* `Units.ofWords`    a stream of words, each read as its upper 24 bits over 2 ^ 24;
* `Units.cycle`      a list, over and over;
* `congruential`     the words of a linear congruential generator.
-/

namespace FireflyOverlay
open Scalar

structure Units (α : Type) where
  unit : Nat → α
  used : Nat

namespace Units

variable {α : Type}

def ofFn (f : Nat → α) : Units α := ⟨f, 0⟩

def next (u : Units α) : α × Units α := (u.unit u.used, { u with used := u.used + 1 })

/-- The stream a number of units later. -/
def drop (u : Units α) (n : Nat) : Units α := { u with used := u.used + n }

theorem next_fst (u : Units α) : u.next.1 = u.unit u.used := rfl
theorem next_snd (u : Units α) : u.next.2 = u.drop 1 := rfl

theorem drop_drop (u : Units α) (m n : Nat) : (u.drop m).drop n = u.drop (m + n) := by
  rw [drop, drop, drop, Nat.add_assoc]

/-- The entries of a list over and over; of the empty list, a default. -/
def cycle {β : Type} (entries : Array β) (fallback : β) (n : Nat) : β :=
  entries.getD (n % entries.size) fallback

/-- The unit that a word of 32 bits stands for. -/
def ofWord [Scalar α] (word : UInt32) : α := ofNat (word.toNat / 0x100) / ofNat 0x1000000

def ofWords [Scalar α] (word : Nat → UInt32) : Units α := ofFn fun n => ofWord (word n)

end Units

/-! ## a congruential generator -/

/-- The map `x ↦ factor * x + offset` on words. -/
structure WordMap where
  factor : UInt32
  offset : UInt32

namespace WordMap

def apply (f : WordMap) (x : UInt32) : UInt32 := f.factor * x + f.offset

def identity : WordMap := ⟨1, 0⟩

/-- First `g`, then `f`. -/
def comp (f g : WordMap) : WordMap := ⟨f.factor * g.factor, f.factor * g.offset + f.offset⟩

/-- The map `n` times, by repeated squaring. -/
def pow (f : WordMap) (n : Nat) : WordMap :=
  if n = 0 then identity
  else
    let half := (f.comp f).pow (n / 2)
    if n % 2 = 0 then half else half.comp f
termination_by n

end WordMap

/-- The words `s₁, s₂, …` with `sₙ₊₁ = 1664525 * sₙ + 1013904223` that follow a seed `s₀`. -/
def congruential (seed : UInt32) (n : Nat) : UInt32 :=
  ((⟨1664525, 1013904223⟩ : WordMap).pow (n + 1)).apply seed

end FireflyOverlay
