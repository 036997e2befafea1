import FireflyOverlay.Text.Alphanumeric
import FireflyOverlay.Text.Columns
import FireflyOverlay.Text.LineBreak

/-!
# Words

A line of text is a list of words, each with the blanks behind it.

* `cut`              a text, cut behind its marked characters;
* `words`            the words of a line: they end where the line may be broken;
* `Word.hyphenated`  a word, cut behind the hyphens between its letters and digits;
* `Word.narrowed`    a word, cut into pieces that fit into a number of columns.
-/

namespace FireflyOverlay
namespace Text

/-! ## cutting -/

/-- A character put in front of the first piece. -/
def consPiece (c : Char) : List (List Char) → List (List Char)
  | [] => [[c]]
  | piece :: pieces => (c :: piece) :: pieces

def cut : List (Char × Bool) → List (List Char)
  | [] => []
  | (c, true) :: rest => [c] :: cut rest
  | (c, false) :: rest => consPiece c (cut rest)

theorem flatten_consPiece (c : Char) (pieces : List (List Char)) :
    (consPiece c pieces).flatten = c :: pieces.flatten := by
  cases pieces <;> rfl

theorem flatten_cut (cs : List (Char × Bool)) : (cut cs).flatten = cs.map (·.1) := by
  induction cs with
  | nil => rfl
  | cons p rest ih =>
    obtain ⟨c, marked⟩ := p
    cases marked with
    | true => rw [cut, List.flatten_cons, ih]; rfl
    | false => rw [cut, flatten_consPiece, ih]; rfl

/-! ## words -/

structure Word where
  text : List Char
  blanks : Nat
deriving DecidableEq, Repr

namespace Word

def empty : Word := ⟨[], 0⟩

def chars (w : Word) : List Char := w.text ++ List.replicate w.blanks ' '

/-- The blanks at the end are set apart. -/
def ofChars (cs : List Char) : Word :=
  ⟨(cs.reverse.dropWhile (· == ' ')).reverse, (cs.reverse.takeWhile (· == ' ')).length⟩

theorem chars_ofChars (cs : List Char) : (ofChars cs).chars = cs := by
  have h : List.replicate (cs.reverse.takeWhile (· == ' ')).length ' '
      = (cs.reverse.takeWhile (· == ' ')).reverse := by
    rw [← List.reverse_replicate]
    congr 1
    symm
    rw [List.eq_replicate_iff]
    refine ⟨rfl, fun c hc => ?_⟩
    have := List.all_takeWhile (l := cs.reverse) (p := (· == ' '))
    rw [List.all_eq_true] at this
    exact beq_iff_eq.1 (this c hc)
  rw [chars, ofChars, h, ← List.reverse_append, List.takeWhile_append_dropWhile,
    List.reverse_reverse]

def columns (w : Word) : Nat := Text.columns w.text

/-- Pieces of one word; the blanks stay with the last. -/
def ofPieces (blanks : Nat) : List (List Char) → List Word
  | [] => [⟨[], blanks⟩]
  | [piece] => [⟨piece, blanks⟩]
  | piece :: pieces => ⟨piece, 0⟩ :: ofPieces blanks pieces

theorem flatten_ofPieces (blanks : Nat) (pieces : List (List Char)) :
    ((ofPieces blanks pieces).map chars).flatten = pieces.flatten ++ List.replicate blanks ' ' := by
  induction pieces with
  | nil => simp [ofPieces, chars]
  | cons piece pieces ih =>
    cases pieces with
    | nil => simp [ofPieces, chars]
    | cons q qs =>
      have e : ofPieces blanks (piece :: q :: qs) = ⟨piece, 0⟩ :: ofPieces blanks (q :: qs) := rfl
      rw [e, List.map_cons, List.flatten_cons, ih, List.flatten_cons]
      simp [chars]

/-! ## pieces of words -/

/-- Marks the hyphens between letters and digits; `before` is the character before the text. -/
def markHyphens : Option Char → List Char → List (Char × Bool)
  | _, [] => []
  | before, c :: cs =>
    (c, c == '-' && before.any isAlphanumeric && cs.head?.any isAlphanumeric)
      :: markHyphens (some c) cs

theorem map_markHyphens (before : Option Char) (cs : List Char) :
    (markHyphens before cs).map (·.1) = cs := by
  induction cs generalizing before with
  | nil => rfl
  | cons c cs ih => rw [markHyphens, List.map_cons, ih]

def hyphenated (w : Word) : List Word := ofPieces w.blanks (cut (markHyphens none w.text))

theorem flatten_hyphenated (w : Word) : (w.hyphenated.map chars).flatten = w.chars := by
  rw [hyphenated, flatten_ofPieces, flatten_cut, map_markHyphens]; rfl

/-- Cuts a text in front of each character that no longer fits; `used` columns are taken. -/
def chop (limit : Nat) : Nat → List Cell → List (List Char)
  | _, [] => []
  | used, x :: xs =>
    if x.shown && 0 < used && limit < used + x.columns then
      [] :: consPiece x.char (chop limit x.columns xs)
    else consPiece x.char (chop limit (used + x.columns) xs)

theorem flatten_chop (limit used : Nat) (xs : List Cell) :
    (chop limit used xs).flatten = xs.map Cell.char := by
  induction xs generalizing used with
  | nil => rfl
  | cons x xs ih =>
    rw [chop]
    split
    · rw [List.flatten_cons, flatten_consPiece, ih]; rfl
    · rw [flatten_consPiece, ih]; rfl

def narrowed (limit : Nat) (w : Word) : List Word :=
  if limit < w.columns then ofPieces w.blanks (chop limit 0 (cells w.text)) else [w]

theorem flatten_narrowed (limit : Nat) (w : Word) : ((w.narrowed limit).map chars).flatten = w.chars := by
  rw [narrowed]
  split
  · rw [flatten_ofPieces, flatten_chop, map_char_cells]; rfl
  · simp

end Word

/-! ## the words of a line -/

/-- The first mark is taken back. -/
def forgetFirst : List Bool → List Bool
  | [] => []
  | true :: bs => false :: bs
  | false :: bs => false :: forgetFirst bs

def forgetLast (marks : List Bool) : List Bool := (forgetFirst marks.reverse).reverse

/-- A hyphen that shows only where a line is broken. -/
def softHyphen : Char := '\u00ad'

/-- Hyphens do not end a word.  The end of the line is no mark: the last word ends there anyway. -/
def wordMarks (text : List Char) : List Bool :=
  forgetLast ((text.zip (opportunities text)).map fun (c, allowed) =>
    allowed && c != '-' && c != softHyphen)

/-- Hands out marks to the characters that are shown. -/
def markShown : List Cell → List Bool → List (Char × Bool)
  | [], _ => []
  | x :: xs, marks =>
    if x.shown then (x.char, marks.headD false) :: markShown xs marks.tail
    else (x.char, false) :: markShown xs marks

theorem map_markShown (xs : List Cell) (marks : List Bool) :
    (markShown xs marks).map (·.1) = xs.map Cell.char := by
  induction xs generalizing marks with
  | nil => rfl
  | cons x xs ih =>
    rw [markShown]
    split <;> rw [List.map_cons, ih] <;> rfl

def words (line : List Char) : List Word :=
  (cut (markShown (cells line) (wordMarks (shown line)))).map .ofChars

theorem flatten_words (line : List Char) : ((words line).map Word.chars).flatten = line := by
  have h : Word.chars ∘ Word.ofChars = id := funext Word.chars_ofChars
  rw [words, List.map_map, h, List.map_id, flatten_cut, map_markShown, map_char_cells]

end Text
end FireflyOverlay
