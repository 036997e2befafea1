import FireflyOverlay.Text.Layout
import FireflyOverlay.Text.Split

/-!
# Wrapped text

`wrap` sets every line of a text in lines of a number of columns.  Blanks at the end of a line are
dropped, as are those where a line is broken; every line of the text gives at least one.
-/

namespace FireflyOverlay
namespace Text

/-- The words of a line, none wider than the columns unless a single character is.  The first word is
empty, so that also an empty line has one. -/
def paragraph (columns : Nat) (line : List Char) : List Word :=
  Word.empty :: ((words line).flatMap Word.hyphenated).flatMap (Word.narrowed columns)

/-- Words in a row, without the blanks at the end. -/
def setLine : List Word → List Char
  | [] => []
  | [w] => w.text
  | w :: ws => w.chars ++ setLine ws

def wrapLine (columns : Nat) (line : List Char) : List (List Char) :=
  (layout (max 1 columns) (paragraph columns line)).map setLine

def wrap (columns : Nat) (text : List Char) : List (List Char) :=
  (split '\n' text).flatMap (wrapLine columns)

theorem wrapLine_ne_nil (columns : Nat) (line : List Char) : wrapLine columns line ≠ [] := by
  intro h
  exact layout_ne_nil _ (List.cons_ne_nil _ _) (List.map_eq_nil_iff.1 h)

theorem flatMap_flatten (f : Word → List Word) (h : ∀ w, ((f w).map Word.chars).flatten = w.chars)
    (ws : List Word) : ((ws.flatMap f).map Word.chars).flatten = (ws.map Word.chars).flatten := by
  induction ws with
  | nil => rfl
  | cons w ws ih => simp [List.flatMap_cons, ih, h w]

/-- The words hold all characters of the line. -/
theorem flatten_paragraph (columns : Nat) (line : List Char) :
    ((paragraph columns line).map Word.chars).flatten = line := by
  rw [paragraph, List.map_cons, List.flatten_cons,
    flatMap_flatten _ (Word.flatten_narrowed columns), flatMap_flatten _ Word.flatten_hyphenated,
    flatten_words]
  rfl

end Text
end FireflyOverlay
