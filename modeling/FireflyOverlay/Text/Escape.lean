/-!
# Escape sequences

A terminal shows the characters of a text except for its escape sequences.  They start with an escape
character; a left bracket after it starts a control sequence, which lasts up to a final character
between `@` and `~`; a right bracket starts a command, which lasts up to a bell or up to an escape
with a backslash; any other character is the whole sequence.

* `Text.Cell`      a character of a text, and whether it is shown;
* `Text.cells`     the characters of a text;
* `Text.shown`     those that are shown.
-/

namespace FireflyOverlay
namespace Text

structure Cell where
  char : Char
  shown : Bool
deriving DecidableEq, Repr

/-- What a terminal is reading. -/
inductive EscapeState where
  | text
  | escape
  | control
  | command (last : Char)
deriving DecidableEq, Repr

namespace EscapeState

def step : EscapeState → Char → EscapeState
  | text, c => if c = '\x1b' then escape else text
  | escape, c => if c = '[' then control else if c = ']' then command c else text
  | control, c => if '@' ≤ c ∧ c ≤ '~' then text else control
  | command last, c => if c = '\x07' ∨ (c = '\\' ∧ last = '\x1b') then text else command c

/-- Only text is shown. -/
def shows (s : EscapeState) (c : Char) : Bool := s = text && c ≠ '\x1b'

def cells : EscapeState → List Char → List Cell
  | _, [] => []
  | s, c :: cs => ⟨c, s.shows c⟩ :: cells (s.step c) cs

theorem map_char_cells (s : EscapeState) (cs : List Char) : (s.cells cs).map Cell.char = cs := by
  induction cs generalizing s with
  | nil => rfl
  | cons c cs ih => rw [cells, List.map_cons, ih]

end EscapeState

def cells (text : List Char) : List Cell := EscapeState.text.cells text

def shown (text : List Char) : List Char := ((cells text).filter Cell.shown).map Cell.char

theorem map_char_cells (text : List Char) : (cells text).map Cell.char = text :=
  EscapeState.map_char_cells _ _

end Text
end FireflyOverlay
