import FireflyOverlay.Text.Word

/-!
# Setting words in lines

The words of a paragraph are cut into lines so that the whole costs least: every line costs something,
a line that is too wide costs much for each column, and any line but the last costs the square of the
columns that it leaves free.  A last line of one short word costs a little.

* `Draft`          a line that may take more words, behind lines that are settled;
* `Draft.cost`     what it costs to end it here;
* `Settled`        lines with their cost;
* `layout`         the cheapest lines for the given words.  Of equally cheap ways the one whose last
                   line starts first is taken.
-/

namespace FireflyOverlay
namespace Text

def linePenalty : Nat := 1000
def overflowPenalty : Nat := 2500
def shortLinePenalty : Nat := 25

/-- Lines, the last one first. -/
structure Settled where
  cost : Nat
  lines : List (List Word)
deriving DecidableEq, Repr

def Settled.nothing : Settled := ⟨0, []⟩

structure Draft where
  before : Settled
  /-- its words, the last one first -/
  words : List Word
  /-- the columns of its words with the blanks between them -/
  columns : Nat
  /-- the blanks behind the last word -/
  blanks : Nat
deriving DecidableEq, Repr

namespace Draft

def after (s : Settled) : Draft := ⟨s, [], 0, 0⟩

def add (d : Draft) (w : Word) : Draft :=
  ⟨d.before, w :: d.words, d.columns + d.blanks + w.columns, w.blanks⟩

/-- What a line costs beside the penalty for being one more line. -/
def badness (target : Nat) (isLast : Bool) (d : Draft) : Nat :=
  if target < d.columns then (d.columns - target) * overflowPenalty
  else if !isLast then (target - d.columns) * (target - d.columns)
  else if d.words.length = 1 ∧ 4 * d.columns < target then shortLinePenalty
  else 0

def cost (target : Nat) (isLast : Bool) (d : Draft) : Nat :=
  d.before.cost + linePenalty + d.badness target isLast

def settle (target : Nat) (isLast : Bool) (d : Draft) : Settled :=
  ⟨d.cost target isLast, d.words.reverse :: d.before.lines⟩

/-- The cheapest draft; of equally cheap ones the last of the list. -/
def cheapest (target : Nat) (isLast : Bool) (d : Draft) (ds : List Draft) : Draft :=
  ds.foldl (fun a b => if b.cost target isLast ≤ a.cost target isLast then b else a) d

theorem cheapest_mem (target : Nat) (isLast : Bool) (d : Draft) (ds : List Draft) :
    cheapest target isLast d ds ∈ d :: ds := by
  induction ds generalizing d with
  | nil => exact List.mem_cons_self
  | cons e ds ih =>
    rw [cheapest, List.foldl_cons]
    split
    · exact List.mem_cons_of_mem _ (ih e)
    · rcases List.mem_cons.1 (ih d) with h | h
      · rw [cheapest] at h; rw [h]; exact List.mem_cons_self
      · exact List.mem_cons_of_mem _ (List.mem_cons_of_mem _ h)

theorem cost_cheapest_le (target : Nat) (isLast : Bool) (d : Draft) (ds : List Draft) :
    ∀ e ∈ d :: ds, (cheapest target isLast d ds).cost target isLast ≤ e.cost target isLast := by
  induction ds generalizing d with
  | nil => intro e he; rw [List.mem_singleton.1 he]; exact Nat.le_refl _
  | cons b ds ih =>
    intro e he
    rw [cheapest, List.foldl_cons]
    split
    · next h =>
      rcases List.mem_cons.1 he with rfl | he
      · exact Nat.le_trans (ih b b List.mem_cons_self) h
      · exact ih b e he
    · next h =>
      rcases List.mem_cons.1 he with rfl | he
      · exact ih e e List.mem_cons_self
      · rcases List.mem_cons.1 he with rfl | he
        · exact Nat.le_trans (ih d d List.mem_cons_self) (Nat.le_of_lt (Nat.lt_of_not_le h))
        · exact ih d e (List.mem_cons_of_mem _ he)

end Draft

/-- Settles word after word.  A line may start in front of any of them; the newest draft is the first
of the list. -/
def settleAll (target : Nat) : List Word → List Draft → Settled → Settled
  | [], _, s => s
  | w :: ws, drafts, s =>
    let newest := (Draft.after s).add w
    let older := drafts.map (·.add w)
    let best := Draft.cheapest target ws.isEmpty newest older
    settleAll target ws (newest :: older) (best.settle target ws.isEmpty)

def layout (target : Nat) (words : List Word) : List (List Word) :=
  (settleAll target words [] .nothing).lines.reverse

/-! ## nothing is lost -/

def Settled.words (s : Settled) : List Word := s.lines.reverse.flatten

def Draft.allWords (d : Draft) : List Word := d.before.words ++ d.words.reverse

theorem Draft.allWords_after (s : Settled) : (Draft.after s).allWords = s.words :=
  List.append_nil _

theorem Draft.allWords_add (d : Draft) (w : Word) : (d.add w).allWords = d.allWords ++ [w] := by
  simp [allWords, add]

theorem Draft.words_settle (target : Nat) (isLast : Bool) (d : Draft) :
    (d.settle target isLast).words = d.allWords := by
  simp [settle, Settled.words, allWords]

theorem words_settleAll (target : Nat) (ws : List Word) (drafts : List Draft) (s : Settled)
    (h : ∀ d ∈ drafts, d.allWords = s.words) :
    (settleAll target ws drafts s).words = s.words ++ ws := by
  induction ws generalizing drafts s with
  | nil => exact (List.append_nil _).symm
  | cons w ws ih =>
    have each : ∀ d ∈ (Draft.after s).add w :: drafts.map (·.add w),
        d.allWords = s.words ++ [w] := by
      intro d hd
      rcases List.mem_cons.1 hd with rfl | hd
      · rw [Draft.allWords_add, Draft.allWords_after]
      · obtain ⟨e, he, rfl⟩ := List.mem_map.1 hd
        rw [Draft.allWords_add, h e he]
    have best := each _ (Draft.cheapest_mem target ws.isEmpty _ _)
    rw [settleAll, ih]
    · rw [Draft.words_settle, best, List.append_assoc]; rfl
    · intro d hd
      rw [Draft.words_settle, best]
      exact each d hd

theorem flatten_layout (target : Nat) (words : List Word) : (layout target words).flatten = words :=
  words_settleAll target words [] .nothing fun _ h => nomatch h

theorem layout_ne_nil (target : Nat) {words : List Word} (h : words ≠ []) :
    layout target words ≠ [] := by
  intro hl
  have hf := flatten_layout target words
  rw [hl] at hf
  exact h hf.symm

end Text
end FireflyOverlay
