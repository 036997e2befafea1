import FireflyOverlay.Text.Hex
import FireflyOverlay.Text.Split

/-!
# Sets of characters

A set of characters is a list of ranges of their numbers.  `Ranges.ofText` reads it from hexadecimal
numbers: `41-5a 5f` holds the capital letters and the underscore, and `30-38/2` the even digits.
-/

namespace FireflyOverlay

abbrev Ranges := List (Nat × Nat)

namespace Ranges

/-- The ends of a range; a number alone is both. -/
def ends (item : List Char) : Nat × Nat :=
  match Text.split '-' item with
  | first :: last :: _ => (Hex.number first, Hex.number last)
  | _ => (Hex.number item, Hex.number item)

/-- The numbers from `first` to `last`, `step` apart. -/
def apart (step first last : Nat) : Ranges :=
  (List.range ((last - first) / step + 1)).map fun i => (first + step * i, first + step * i)

def ofItem (item : List Char) : Ranges :=
  match Text.split '/' item with
  | between :: step :: _ => apart (Hex.number step) (ends between).1 (ends between).2
  | _ => [ends item]

def ofText (text : String) : Ranges := (Text.split ' ' text.toList).flatMap ofItem

/-- The ranges of several lines of text. -/
def ofLines (lines : List String) : Ranges := lines.flatMap ofText

def contains (r : Ranges) (c : Char) : Bool := r.any fun (a, b) => a ≤ c.toNat && c.toNat ≤ b

theorem contains_iff (r : Ranges) (c : Char) :
    r.contains c ↔ ∃ p ∈ r, p.1 ≤ c.toNat ∧ c.toNat ≤ p.2 := by
  simp [contains]

end Ranges
end FireflyOverlay
