import FireflyOverlay.Text.LineBreak.Class

/-!
# Where a line may be broken

* `BreakState`            what is known of the text before a character;
* `BreakState.separates`  whether the line may, or must, be broken in front of a character;
* `opportunities`         for every character of a text, whether the line may be broken after it.
                          It always may at the end.

A combining mark belongs to the character before it, and takes its class.  Spaces stay on the line;
some characters are kept together even with spaces between them.  A closing quotation mark, and a
syllable of the scripts that are written with viramas, also depend on the class that comes next.
-/

namespace FireflyOverlay
namespace Text

namespace BreakClass

/-- After these the line ends. -/
def isHard (k : BreakClass) : Bool :=
  [mandatoryBreak, carriageReturn, lineFeed, nextLine].contains k

/-- Marks join what is before them. -/
def isMark (k : BreakClass) : Bool := [combiningMark, zeroWidthJoiner].contains k

/-- Not to be broken in front of these, not even after spaces. -/
def isTrailing (k : BreakClass) : Bool :=
  [wordJoiner, closePunctuation, closeParenthesis, exclamation, infixNumeric, breakSymbol].contains k

def isOpening (k : BreakClass) : Bool := [openPunctuation, wideOpenPunctuation].contains k

def isQuotation (k : BreakClass) : Bool := [quotation, initialQuotation, finalQuotation].contains k

/-- Kept together, also with spaces between them. -/
def bindsOverSpaces (a b : BreakClass) : Bool :=
  a.isOpening || ([closePunctuation, closeParenthesis].contains a && b = nonStarter)
    || (a = breakBoth && b = breakBoth)

/-- A dotted circle stands for a letter. -/
def letters : List BreakClass := [alphabetic, hebrewLetter, dottedCircle]

/-- Letters that viramas join. -/
def aksaras : List BreakClass := [aksara, aksaraStart, dottedCircle]

def pictures : List BreakClass := [ideographic, unassignedPictograph, emojiBase, emojiModifier]

def jamos : List BreakClass :=
  [leadingJamo, vowelJamo, trailingJamo, vowelSyllable, consonantSyllable]

/-- Kept together where they touch: words, numbers with their signs, parts of a syllable. -/
def touching : List (List BreakClass × List BreakClass) :=
  [([breakSymbol], [hebrewLetter]),
   (letters, [numeric]), ([numeric], letters),
   ([prefixNumeric], pictures), (pictures, [postfixNumeric]),
   ([prefixNumeric, postfixNumeric], letters), (letters, [prefixNumeric, postfixNumeric]),
   ([closePunctuation, closeParenthesis, numeric], [prefixNumeric, postfixNumeric]),
   ([prefixNumeric, postfixNumeric], [openPunctuation, wideOpenPunctuation, numeric]),
   ([hyphen, infixNumeric, numeric, breakSymbol], [numeric]),
   ([leadingJamo], [leadingJamo, vowelJamo, vowelSyllable, consonantSyllable]),
   ([vowelJamo, vowelSyllable], [vowelJamo, trailingJamo]),
   ([trailingJamo, consonantSyllable], [trailingJamo]),
   (jamos, [postfixNumeric]), ([prefixNumeric], jamos),
   (letters, letters), ([infixNumeric], letters),
   (letters, [openPunctuation]), ([numeric], [openPunctuation]),
   ([closeParenthesis], letters), ([closeParenthesis], [numeric]),
   ([aksaraPrebase], aksaras), (aksaras, [viramaFinal, virama]),
   ([emojiBase, unassignedPictograph], [emojiModifier])]

def bindsTouching (a b : BreakClass) : Bool :=
  touching.any fun (before, after) => before.contains a && after.contains b

/-- Not to be broken in front of these where they touch what is before them. -/
def isLeaning (k : BreakClass) : Bool := [breakAfter, hyphen, nonStarter, inseparable].contains k

/-- A quotation opens behind these. -/
def opensQuotation (k : BreakClass) : Bool :=
  k.isHard || k.isOpening || k.isQuotation || [glue, zeroWidthSpace].contains k

/-- A quotation closes in front of these. -/
def closesQuotation (k : BreakClass) : Bool :=
  k.isHard || k.isTrailing || k.isQuotation || [space, glue, zeroWidthSpace].contains k

/-- The class that comes next, in a text that starts with the marks of the character before it. -/
def upcoming (rest : List BreakClass) : Option BreakClass := rest.find? (!·.isMark)

end BreakClass

open BreakClass

structure BreakState where
  /-- the class of the last character but for spaces and marks; none at the start of a line -/
  last : Option BreakClass
  /-- spaces follow it -/
  spaced : Bool
  /-- the last character of all is a joiner -/
  joined : Bool
  /-- the number of regional indicators at the end is odd -/
  oddRegion : Bool
  /-- the last character is a hyphen behind a Hebrew letter -/
  hebrewHyphen : Bool
  /-- the last character but for spaces opens a quotation -/
  quoting : Bool
  /-- the last character is a virama behind a letter that it joins to the next -/
  conjoining : Bool
deriving DecidableEq, Repr

namespace BreakState

def start : BreakState := ⟨none, false, false, false, false, false, false⟩

/-- The line is over; a line feed still belongs to the carriage return before it. -/
def isOver (s : BreakState) (k : BreakClass) : Bool :=
  match s.last with
  | some .carriageReturn => k ≠ lineFeed
  | some a => a.isHard
  | none => false

/-- A mark has a character to join. -/
def joins (s : BreakState) (k : BreakClass) : Bool :=
  k.isMark && !s.spaced && match s.last with
    | some a => !a.isHard && a ≠ zeroWidthSpace
    | none => false

/-- A mark with nothing to join counts as a letter. -/
def standing (k : BreakClass) : BreakClass := if k.isMark then alphabetic else k

/-- A quotation ends with this character. -/
def closes (k : BreakClass) (rest : List BreakClass) : Bool :=
  k = finalQuotation && (upcoming rest).all closesQuotation

/-- Two letters with a virama between them, or with one behind them that ends the syllable. -/
def conjoins (s : BreakState) (a k : BreakClass) (rest : List BreakClass) : Bool :=
  (s.conjoining && [aksara, dottedCircle].contains k)
    || (aksaras.contains a && aksaras.contains k && upcoming rest = some viramaFinal)

/-- Separates two characters that touch. -/
def separatesTouching (s : BreakState) (a k : BreakClass) (rest : List BreakClass) : Bool :=
  if a = wordJoiner ∨ a = glue then false
  else if k = glue ∧ a ≠ breakAfter ∧ a ≠ hyphen then false
  else if a.isQuotation ∨ k.isQuotation then false
  else if a = contingentBreak ∨ k = contingentBreak then true
  else !(k.isLeaning || a = breakBefore || (s.hebrewHyphen && k ≠ hebrewLetter)
    || bindsTouching a k || s.conjoins a k rest
    || (a = regionalIndicator && k = regionalIndicator && s.oddRegion))

/-- Separates a character from what is before it, where nothing ends the line. -/
def separatesStanding (s : BreakState) (k : BreakClass) (rest : List BreakClass) : Bool :=
  if k.isTrailing || s.quoting || closes k rest then false
  else match s.last with
    | none => s.spaced
    | some a =>
      if bindsOverSpaces a k then false
      else if s.spaced then true
      else s.separatesTouching a k rest

def separates (s : BreakState) (k : BreakClass) (rest : List BreakClass) : Bool :=
  if s.isOver k then true
  else if k.isHard ∨ k = space ∨ k = zeroWidthSpace then false
  else if s.last = some zeroWidthSpace then true
  else if s.joined ∨ s.joins k then false
  else s.separatesStanding (standing k) rest

def next (s : BreakState) (k : BreakClass) : BreakState :=
  if s.joins k then { s with joined := k = zeroWidthJoiner }
  else if k = space then
    if s.isOver k then { start with spaced := true } else { s with spaced := true, joined := false }
  else
    let touches (a : BreakClass) : Bool := s.last = some a && !s.spaced
    { last := some (standing k)
      spaced := false
      joined := k = zeroWidthJoiner
      oddRegion := k = regionalIndicator && !(touches regionalIndicator && s.oddRegion)
      hebrewHyphen := touches hebrewLetter && (k = hyphen || k = breakAfter)
      quoting := k = initialQuotation && (s.spaced || s.last.all opensQuotation)
      conjoining := k = virama && aksaras.any touches }

/-- For every character, whether the line may be broken in front of it. -/
def breaks : BreakState → List BreakClass → List Bool
  | _, [] => []
  | s, k :: ks => s.separates k ks :: breaks (s.next k) ks

theorem length_breaks (s : BreakState) (ks : List BreakClass) :
    (s.breaks ks).length = ks.length := by
  induction ks generalizing s with
  | nil => rfl
  | cons k ks ih => rw [breaks, List.length_cons, List.length_cons, ih]

end BreakState

def opportunities (text : List Char) : List Bool :=
  match BreakState.start.breaks (text.map .ofChar) with
  | [] => []
  | _ :: after => after ++ [true]

theorem length_opportunities (text : List Char) : (opportunities text).length = text.length := by
  have h := BreakState.length_breaks .start (text.map .ofChar)
  rw [List.length_map] at h
  unfold opportunities
  cases hb : BreakState.start.breaks (text.map .ofChar) with
  | nil => rw [hb] at h; exact h
  | cons b bs => rw [hb] at h; simpa using h

end Text
end FireflyOverlay
