import FireflyOverlay.Text.Pattern

/-!
# Flags of patterns

Flags change how a pattern is read, from where they stand to the end of their group.

* `PatternFlags`           the flags;
* `PatternFlags.ofText?`   reads letters such as `im-s`: flags to be set and, behind a minus, cleared;
* `PatternFlags.advance`   in a spaced pattern, leaves out blanks and comments;
* `PatternFlags.run`       reads characters of a kind, with blanks between them.
-/

namespace FireflyOverlay
namespace Text

structure PatternFlags where
  ignoresCase : Bool
  /-- edges of lines are edges of the text too -/
  manyLines : Bool
  /-- a dot stands for line ends too -/
  dotsAll : Bool
  /-- carriage returns end lines -/
  returns : Bool
  /-- blanks and comments may stand in the pattern -/
  spaced : Bool
  /-- only the first 128 characters have classes -/
  ascii : Bool
deriving DecidableEq, Repr

namespace PatternFlags

def default : PatternFlags := ⟨false, false, false, false, false, false⟩

/-- Which part of several matches is found does not matter, so `U` changes nothing. -/
def set (on : Bool) (f : PatternFlags) : Char → PatternFlags
  | 'i' => { f with ignoresCase := on }
  | 'm' => { f with manyLines := on }
  | 's' => { f with dotsAll := on }
  | 'R' => { f with returns := on }
  | 'x' => { f with spaced := on }
  | 'u' => { f with ascii := !on }
  | _ => f

def letters : List Char := ['i', 'm', 's', 'U', 'u', 'R', 'x', '-']

/-- Every letter stands once, and the minus in front of one. -/
def isList (text : List Char) : Bool :=
  text.all letters.contains && decide text.Nodup && text.getLast? ≠ some '-'

def ofText? (f : PatternFlags) (text : List Char) : Option PatternFlags :=
  if isList text then
    let set := (text.takeWhile (· ≠ '-')).foldl (set true) f
    some (((text.dropWhile (· ≠ '-')).drop 1).foldl (PatternFlags.set false) set)
  else none

/-! ## blanks -/

/-- A comment goes to the end of its line. -/
def skip (inComment : Bool) : List Char → List Char
  | [] => []
  | c :: cs =>
    if inComment then skip (c ≠ '\n') cs
    else if isSpace c then skip false cs
    else if c = '#' then skip true cs
    else c :: cs

theorem length_skip_le (inComment : Bool) (text : List Char) :
    (skip inComment text).length ≤ text.length := by
  induction text generalizing inComment with
  | nil => exact Nat.le_refl _
  | cons c cs ih =>
    rw [skip]
    split
    · exact Nat.le_succ_of_le (ih _)
    · split
      · exact Nat.le_succ_of_le (ih _)
      · split
        · exact Nat.le_succ_of_le (ih _)
        · exact Nat.le_refl _

def advance (f : PatternFlags) (text : List Char) : List Char :=
  if f.spaced then skip false text else text

theorem length_advance_le (f : PatternFlags) (text : List Char) :
    (f.advance text).length ≤ text.length := by
  rw [advance]
  split
  · exact length_skip_le _ _
  · exact Nat.le_refl _

/-- The characters for which `is` holds, and what is behind them. -/
def run (f : PatternFlags) (is : Char → Bool) : List Char → List Char × List Char
  | [] => ([], [])
  | c :: cs =>
    if is c then
      have := f.length_advance_le cs
      let (found, rest) := f.run is (f.advance cs)
      (c :: found, rest)
    else ([], c :: cs)
termination_by text => text.length

end PatternFlags
end Text
end FireflyOverlay
