import FireflyOverlay.Log.Record
import FireflyOverlay.Text.Wrap

/-!
# Panels

On a console a log record is a panel: its lines stand behind a bar, which starts in the first line
and has its foot in the last.

* `Origin`             where a record was made;
* `Panel.heading`      the first line of the text: level, time and origin;
* `Panel.Fill`         how a text is set in lines; `Panel.fill` wraps it, and puts an edge in front
                       of every line;
* `Panel.closeLast`    the foot of the bar.  It is the first bar of the last line, and replaces
                       nothing where the last line has none;
* `Panel.text`         the whole panel.
-/

namespace FireflyOverlay

structure Origin where
  file : Option String
  line : Option Nat
deriving DecidableEq, Repr

namespace Panel

/-- A panel is no wider than this, however wide the terminal is. -/
def widest : Nat := 74

def bar : Char := '┃'
def foot : Char := '┗'

/-- What stands in front of the first line. -/
def firstEdge : List Char := ['┏', ' ']

/-- What stands in front of the other lines. -/
def edge : List Char := [bar, ' ']

def heading (time : String) (origin : Origin) (level : Level) : String :=
  let file := origin.file.getD "<unnamed>"
  let line := origin.line.getD 0
  s!"{level.name} [{time}] [{file}:{line}]"

/-! ## lines -/

/-- Sets a text in lines of a number of columns.  The two edges stand in front of the first line and
of all others. -/
abbrev Fill := Nat → List Char → List Char → List Char → List Char

def addEdges (first other : List Char) : List (List Char) → List (List Char)
  | [] => []
  | line :: rest => (first ++ line) :: rest.map (other ++ ·)

/-- Every character of an edge takes one column. -/
def fill : Fill := fun columns first other text =>
  Text.join '\n' (addEdges first other (Text.wrap (columns - other.length) text))

/-! ## the foot -/

/-- The first bar of a line becomes the foot. -/
def closeLine : List Char → List Char
  | [] => []
  | c :: cs => if c = bar then foot :: cs else c :: closeLine cs

def atLast (f : List Char → List Char) : List (List Char) → List (List Char)
  | [] => []
  | [line] => [f line]
  | line :: rest => line :: atLast f rest

def closeLast (text : List Char) : List Char :=
  Text.join '\n' (atLast closeLine (Text.split '\n' text))

theorem closeLine_edge (line : List Char) : closeLine (edge ++ line) = foot :: ' ' :: line := rfl

/-- A line without a bar stays as it is. -/
theorem closeLine_of_not_mem {line : List Char} (h : bar ∉ line) : closeLine line = line := by
  induction line with
  | nil => rfl
  | cons c cs ih =>
    have hc : c ≠ bar := fun e => h (e ▸ List.mem_cons_self)
    rw [closeLine, if_neg hc, ih fun hm => h (List.mem_cons_of_mem _ hm)]

/-! ## the panel -/

def content (time : String) (origin : Origin) (r : LogRecord) : List Char :=
  (heading time origin r.level).toList ++ '\n' :: r.message.toList

/-- A record in its lines, before the bar gets its foot. -/
def filled (fill : Fill) (terminal : Nat) (time : String) (origin : Origin) (r : LogRecord) :
    List Char := fill (min terminal widest) firstEdge edge (content time origin r)

/-- The panel ends its last line. -/
def chars (fill : Fill) (terminal : Nat) (time : String) (origin : Origin) (r : LogRecord) :
    List Char := closeLast (filled fill terminal time origin r) ++ ['\n']

def text (fill : Fill) (terminal : Nat) (time : String) (origin : Origin) (r : LogRecord) :
    String := String.ofList (chars fill terminal time origin r)

end Panel
end FireflyOverlay
