import FireflyOverlay.Text.Alphanumeric
import FireflyOverlay.Text.CaseFold
import FireflyOverlay.Text.Category
import FireflyOverlay.Text.Space

/-!
# Sets of characters, as they are written

* `CharSet`            ranges, categories, and what is made of other sets;
* `CharSet.contains`   whether a set holds a character;
* `CharSet.folded`     a set with all letters that differ only in case from one of its own.

Sets can be compared, so that equal ones need not be looked at twice.
-/

namespace FireflyOverlay
namespace Text

inductive CharSet where
  | ranges (r : Ranges)
  | categories (l : List Category)
  | alphanumerics
  | complement (a : CharSet)
  | union (a b : CharSet)
  | intersection (a b : CharSet)
  | folded (a : CharSet)
  | foldedAscii (a : CharSet)
deriving DecidableEq, Repr

/-- The letters from a to z that differ only in case from one of them. -/
def caseVariantsAscii (c : Char) : List Char :=
  if c.isLower then [c, c.toUpper] else if c.isUpper then [c, c.toLower] else [c]

namespace CharSet

def contains : CharSet → Char → Bool
  | ranges r, c => r.contains c
  | categories l, c => l.any (·.contains c)
  | alphanumerics, c => isAlphanumeric c
  | complement a, c => !a.contains c
  | union a b, c => a.contains c || b.contains c
  | intersection a b, c => a.contains c && b.contains c
  | folded a, c => (caseVariants c).any a.contains
  | foldedAscii a, c => (caseVariantsAscii c).any a.contains

def empty : CharSet := ranges []
def all : CharSet := complement empty
def single (c : Char) : CharSet := ranges [(c.toNat, c.toNat)]
def ofChars (l : List Char) : CharSet := ranges (l.map fun c => (c.toNat, c.toNat))
def difference (a b : CharSet) : CharSet := intersection a (complement b)
def symmetricDifference (a b : CharSet) : CharSet := union (difference a b) (difference b a)
def unions : List CharSet → CharSet
  | [] => empty
  | a :: rest => rest.foldl union a

theorem contains_empty (c : Char) : empty.contains c = false := rfl
theorem contains_all (c : Char) : all.contains c = true := rfl
theorem contains_difference (a b : CharSet) (c : Char) :
    (difference a b).contains c = (a.contains c && !b.contains c) := rfl

theorem contains_single (a c : Char) : (single a).contains c = decide (c = a) := by
  rw [Bool.eq_iff_iff, single, contains, Ranges.contains_iff, decide_eq_true_iff]
  constructor
  · rintro ⟨p, hp, h⟩
    rw [List.mem_singleton] at hp
    subst hp
    exact Char.ext (UInt32.toNat_inj.1 (Nat.le_antisymm h.2 h.1))
  · rintro rfl
    exact ⟨_, List.mem_singleton_self _, Nat.le_refl _, Nat.le_refl _⟩

/-! ## digits, blanks and words -/

def digits : CharSet := categories [.decimalNumber]
def blanks : CharSet := ranges spaces

/-- Letters, marks, digits, and what joins words: underscores and the like, and the two joiners. -/
def wordChars : CharSet :=
  unions [difference alphanumerics (categories [.otherNumber]),
    categories [.nonspacingMark, .spacingMark, .enclosingMark, .connectorPunctuation],
    ofChars ['\u200c', '\u200d']]

def asciiDigits : CharSet := ranges (.ofText "30-39")
def asciiBlanks : CharSet := ranges (.ofText "9-d 20")
def asciiWordChars : CharSet := ranges (.ofText "30-39 41-5a 5f 61-7a")

/-! ## extent -/

/-- About the number of ranges that a set needs when it is written out. -/
def extent : CharSet → Nat
  | ranges r => r.length
  | categories l => l.foldl (fun n k => n + ((categoryRanges.lookup k).getD []).length) 0
  | alphanumerics => Text.alphanumerics.length
  | complement a => a.extent + 1
  | union a b => a.extent + b.extent
  | intersection a b => max a.extent b.extent
  | folded a | foldedAscii a => 2 * a.extent

end CharSet
end Text
end FireflyOverlay
