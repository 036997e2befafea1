import FireflyOverlay.Text.CharSet

/-!
# Patterns that are looked for in text

A pattern is a regular expression whose edges look at the characters on both sides of a place.

* `Pattern`             characters of a set, edges, one after another, one or the other, repetitions;
* `Pattern.isBlankAt`   whether a pattern is matched by no character at a place;
* `Pattern.rests`       the patterns of which one must be matched after a character, for the whole to be;
* `Pattern.occursIn`    whether a part of a text matches.

The search reads the text once, and keeps a list of patterns: the rests of all matches that started so
far.  At every place one more match may start.
-/

namespace FireflyOverlay
namespace Text

/-- A place in a text: the characters on its sides, of which the ends of the text have none. -/
structure Place where
  before : Option Char
  after : Option Char
deriving DecidableEq, Repr

inductive WordEdge where
  /-- a word starts or ends here -/
  | any
  /-- no word starts or ends here -/
  | none
  | start
  | stop
  /-- no word is before this place -/
  | startHalf
  /-- no word is behind this place -/
  | stopHalf
deriving DecidableEq, Repr

/-- What may hold at a place. -/
inductive Edge where
  | textStart
  | textEnd
  /-- lines may also end with a carriage return -/
  | lineStart (returns : Bool)
  | lineEnd (returns : Bool)
  | word (kind : WordEdge) (ascii : Bool)
deriving DecidableEq, Repr

def WordEdge.holds : WordEdge → Bool → Bool → Bool
  | any, a, b => a != b
  | none, a, b => a == b
  | start, a, b => !a && b
  | stop, a, b => a && !b
  | startHalf, a, _ => !a
  | stopHalf, _, b => !b

def Edge.holds : Edge → Place → Bool
  | textStart, p => p.before.isNone
  | textEnd, p => p.after.isNone
  | lineStart returns, p =>
    p.before.isNone || p.before = some '\n'
      || (returns && p.before = some '\r' && p.after ≠ some '\n')
  | lineEnd returns, p =>
    p.after.isNone || (p.after = some '\n' && !(returns && p.before = some '\r'))
      || (returns && p.after = some '\r')
  | word kind ascii, p =>
    let words := if ascii then CharSet.asciiWordChars else CharSet.wordChars
    kind.holds (p.before.any words.contains) (p.after.any words.contains)

inductive Pattern where
  | blank
  | one (s : CharSet)
  | edge (e : Edge)
  | both (p q : Pattern)
  | either (p q : Pattern)
  /-- without `most`, any number of times -/
  | times (p : Pattern) (least : Nat) (most : Option Nat)
deriving DecidableEq, Repr

namespace Pattern

/-! ## matching -/

def isBlankAt : Pattern → Place → Bool
  | blank, _ => true
  | one _, _ => false
  | edge e, place => e.holds place
  | both p q, place => p.isBlankAt place && q.isBlankAt place
  | either p q, place => p.isBlankAt place || q.isBlankAt place
  | times p least _, place => least = 0 || p.isBlankAt place

/-- One pattern after another; a blank one is left out. -/
def andThen (p q : Pattern) : Pattern :=
  if p = blank then q else if q = blank then p else both p q

def repeated (p : Pattern) (least : Nat) (most : Option Nat) : Pattern :=
  if most = some 0 then blank else times p least most

/-- If the repeated pattern is blank at a place, it is repeated there as often as needed. -/
def rests : Pattern → Place → Char → List Pattern
  | blank, _, _ => []
  | edge _, _, _ => []
  | one s, _, c => if s.contains c then [blank] else []
  | both p q, place, c =>
    (p.rests place c).map (·.andThen q) ++ if p.isBlankAt place then q.rests place c else []
  | either p q, place, c => p.rests place c ++ q.rests place c
  | times p least most, place, c =>
    if most = some 0 then []
    else
      let least := if p.isBlankAt place then 0 else least - 1
      (p.rests place c).map (·.andThen (p.repeated least (most.map (· - 1))))

/-- Looks on, behind the character `before`, with the rests of matches that have started. -/
def occursFrom (p : Pattern) : Option Char → List Pattern → List Char → Bool
  | before, started, [] => (p :: started).any (·.isBlankAt ⟨before, none⟩)
  | before, started, c :: cs =>
    let place : Place := ⟨before, some c⟩
    let started := (p :: started).eraseDups
    started.any (·.isBlankAt place)
      || p.occursFrom (some c) (started.flatMap (·.rests place c)) cs

def occursIn (p : Pattern) (text : List Char) : Bool := p.occursFrom none [] text

theorem occursIn_blank (text : List Char) : blank.occursIn text = true := by
  cases text <;> simp [occursIn, occursFrom, isBlankAt, List.eraseDups_cons]

/-! ## size -/

/-- About the bytes that a machine for the pattern takes, with every repetition written out. -/
def cost : Pattern → Nat
  | blank | edge _ => 32
  | one (.ranges [(a, b)]) =>
    if a = b then 32 * (Char.ofNat a).utf8Size else if b < 128 then 40 else 96
  | one (.ranges r) => if r.all (·.2 < 128) then 32 + 8 * r.length else 32 + 64 * r.length
  | one s => 32 + 64 * s.extent
  | both p q => p.cost + q.cost
  | either p q => p.cost + q.cost + 40
  | times p least none => max least 1 * p.cost + 40
  | times p least (some most) => least * p.cost + (most - least) * (p.cost + 40) + 32

/-- A pattern that takes more is refused. -/
def maxCost : Nat := 10 * 0x100000

end Pattern
end Text
end FireflyOverlay
