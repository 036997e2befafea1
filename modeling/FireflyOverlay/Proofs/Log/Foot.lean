import FireflyOverlay.Log.Panel
import FireflyOverlay.Proofs.Text.Lines
import FireflyOverlay.Proofs.Text.Reading

/-!
# The foot of a panel

The bar of a panel ends in a foot, at the start of its last line, and no other character is changed,
whatever the message holds.

* `Panel.closeLast_append`   only the last line is changed, and only its first bar;
* `Panel.footPattern`  a bar and the rest of the text, without a line break;
* `Panel.firstMatch_footPattern_iff`   its first match starts at the first bar of the last line;
* `Panel.Framed`       two lines or more behind their edges;
* `Panel.Frames`       a way to set texts in lines that makes such texts of all that have a line
                       break, as wrapping does (`frames_fill`);
* `FootLaws`, `PanelLaws`  what is changed in a text, and in the text of a record.
-/

namespace FireflyOverlay
namespace Panel

open Text

/-! ## the last line -/

/-- A text of lines that are all ended. -/
def WholeLines (text : List Char) : Prop := text = [] ∨ ∃ lines, text = lines ++ ['\n']

/-- A text is whole lines, and a last line that may be empty. -/
theorem exists_lastLine (text : List Char) :
    ∃ upper line, text = upper ++ line ∧ WholeLines upper ∧ '\n' ∉ line := by
  induction text with
  | nil => exact ⟨[], [], rfl, .inl rfl, List.not_mem_nil⟩
  | cons c cs ih =>
    obtain ⟨upper, line, rfl, rfl | ⟨lines, rfl⟩, hline⟩ := ih
    · by_cases hc : c = '\n'
      · exact ⟨[c], line, rfl, .inr ⟨[], by rw [hc, List.nil_append]⟩, hline⟩
      · exact ⟨[], c :: line, rfl, .inl rfl, List.not_mem_cons_of_ne_of_not_mem (Ne.symm hc) hline⟩
    · exact ⟨c :: (lines ++ ['\n']), line, rfl, .inr ⟨c :: lines, rfl⟩, hline⟩

/-- What goes over no line break at the end of a text is a part of the last line. -/
theorem WholeLines.exists_eq_append {upper line before tail : List Char} (hu : WholeLines upper)
    (htext : upper ++ line = before ++ tail) (htail : '\n' ∉ tail) :
    ∃ a, before = upper ++ a ∧ line = a ++ tail := by
  rcases List.append_eq_append_iff.mp htext with h | ⟨c, rfl, rfl⟩
  · exact h
  · rcases hu with h | ⟨lines, h⟩
    · obtain ⟨rfl, rfl⟩ := List.append_eq_nil_iff.mp h
      exact ⟨[], rfl, rfl⟩
    · rcases List.eq_nil_or_concat c with rfl | ⟨cs, d, rfl⟩
      · exact ⟨[], by rw [List.append_nil, List.append_nil], rfl⟩
      · have hd : d = '\n' := by
          rw [List.concat_eq_append, ← List.append_assoc] at h
          exact List.singleton_inj.mp (List.append_inj_right' h rfl)
        rw [hd, List.concat_eq_append, List.append_assoc] at htail
        exact absurd (List.mem_append_right cs List.mem_cons_self) htail

theorem atLast_append_singleton (f : List Char → List Char) (upper : List (List Char))
    (line : List Char) : atLast f (upper ++ [line]) = upper ++ [f line] := by
  induction upper with
  | nil => rfl
  | cons first rest ih =>
    cases rest with
    | nil => rfl
    | cons second rest => exact congrArg (first :: ·) ih

theorem closeLine_append {a : List Char} (h : bar ∉ a) (b : List Char) :
    closeLine (a ++ b) = a ++ closeLine b := by
  induction a with
  | nil => rfl
  | cons c cs ih =>
    have hc : c ≠ bar := fun e => h (e ▸ List.mem_cons_self)
    rw [List.cons_append, closeLine, if_neg hc, ih fun hm => h (List.mem_cons_of_mem _ hm),
      List.cons_append]

/-- Only the last line is changed. -/
theorem closeLast_append {upper line : List Char} (hu : WholeLines upper) (h : '\n' ∉ line) :
    closeLast (upper ++ line) = upper ++ closeLine line := by
  unfold closeLast
  rcases hu with rfl | ⟨lines, rfl⟩
  · rw [List.nil_append, split_of_notMem h]
    rfl
  · rw [List.append_assoc, List.singleton_append, split_append_mark, split_of_notMem h,
      atLast_append_singleton, join_append_singleton (split_ne_nil _ _), join_split,
      List.append_assoc, List.singleton_append]

/-! ## the pattern -/

def footPattern : Pattern :=
  .both (.both (.one (.single bar)) (.times (.one (.complement (.single '\n'))) 0 none))
    (.edge .textEnd)

theorem ofText?_footPattern : Pattern.ofText? "(┃)(.*)$".toList = some footPattern := by
  decide +kernel

theorem matches_footPattern_iff {before part after : List Char} :
    footPattern.Matches before part after ↔
      after = [] ∧ ∃ rest, part = bar :: rest ∧ '\n' ∉ rest := by
  have hrest : ∀ {before rest after : List Char},
      (Pattern.times (.one (.complement (.single '\n'))) 0 none).Matches before rest after ↔
        '\n' ∉ rest := by
    intro before rest after
    rw [Pattern.matches_many_iff]
    simp only [CharSet.contains, CharSet.contains_single, Bool.not_eq_true',
      decide_eq_false_iff_not]
    exact ⟨fun h hm => h _ hm rfl, fun h c hc e => h (e ▸ hc)⟩
  constructor
  · rintro ⟨u, v, rfl, ⟨w, rest, rfl, ⟨c, rfl, hc⟩, hr⟩, rfl, hend⟩
    rw [CharSet.contains_single, decide_eq_true_eq] at hc
    refine ⟨List.head?_eq_none_iff.mp (Option.isNone_iff_eq_none.mp hend), rest, ?_, hrest.mp hr⟩
    rw [hc, List.append_nil, List.singleton_append]
  · rintro ⟨rfl, rest, rfl, hr⟩
    have hbar : (CharSet.single bar).contains bar = true := by
      rw [CharSet.contains_single, decide_eq_true_eq]
    exact ⟨bar :: rest, [], (List.append_nil _).symm,
      ⟨[bar], rest, rfl, ⟨bar, rfl, hbar⟩, hrest.mpr hr⟩, rfl, rfl⟩

/-- Every match starts at a bar of the last line. -/
theorem exists_of_matches_footPattern {upper line before part after : List Char}
    (hu : WholeLines upper) (htext : upper ++ line = before ++ part ++ after)
    (hm : footPattern.Matches before part after) :
    ∃ a b, line = a ++ bar :: b ∧ before = upper ++ a ∧ part = bar :: b ∧ after = [] := by
  obtain ⟨rfl, b, rfl, hb⟩ := matches_footPattern_iff.mp hm
  rw [List.append_nil] at htext
  have htail : '\n' ∉ bar :: b := List.not_mem_cons_of_ne_of_not_mem (by decide) hb
  obtain ⟨a, hbefore, hline⟩ := hu.exists_eq_append htext htail
  exact ⟨a, b, hline, hbefore, rfl, rfl⟩

/-- The first match starts at the first one of these. -/
theorem firstMatch_footPattern_iff {upper line before part after : List Char}
    (hu : WholeLines upper) (h : '\n' ∉ line) :
    footPattern.FirstMatch (upper ++ line) before part after ↔
      ∃ a b, line = a ++ bar :: b ∧ bar ∉ a ∧
        before = upper ++ a ∧ part = bar :: b ∧ after = [] := by
  have hmatches : ∀ {before a b}, line = a ++ bar :: b → footPattern.Matches before (bar :: b) [] :=
    fun {_ a b} hline => matches_footPattern_iff.mpr ⟨rfl, b, rfl, fun hm =>
      h (hline ▸ List.mem_append_right a (List.mem_cons_of_mem bar hm))⟩
  constructor
  · rintro ⟨htext, hpart, hfirst⟩
    obtain ⟨a, b, hline, rfl, rfl, rfl⟩ := exists_of_matches_footPattern hu htext hpart
    refine ⟨a, b, hline, fun hbar => ?_, rfl, rfl, rfl⟩
    -- an earlier bar would start a match of its own
    obtain ⟨c, d, rfl⟩ := List.append_of_mem hbar
    rw [List.append_assoc, List.cons_append] at hline
    have hle := hfirst (upper ++ c) (bar :: (d ++ bar :: b)) [] (by simp [hline]) (hmatches hline)
    rw [List.length_append, List.length_append, List.length_append, List.length_cons] at hle
    omega
  · rintro ⟨a, b, hline, ha, rfl, rfl, rfl⟩
    refine ⟨by simp [hline], hmatches hline, fun before part after htext hm => ?_⟩
    obtain ⟨c, d, hline', rfl, -, -⟩ := exists_of_matches_footPattern hu htext hm
    rcases List.append_eq_append_iff.mp (hline'.symm.trans hline) with ⟨e, rfl, he⟩ | ⟨e, rfl, -⟩
    · cases e with
      | nil => simp
      | cons x e =>
        obtain rfl : bar = x := (List.cons.inj he).1
        exact absurd (List.mem_append_right c List.mem_cons_self) ha
    · simp

/-! ## edges -/

/-- Two lines or more, with the edges of a panel in front of them. -/
def Framed (text : List Char) : Prop :=
  ∃ lines, 2 ≤ lines.length ∧ split '\n' text = addEdges firstEdge edge lines

def Frames (fill : Fill) : Prop :=
  ∀ columns text, '\n' ∈ text → Framed (fill columns firstEdge edge text)

/-- The foot stands behind the last line break. -/
theorem Framed.closeLast_eq {text : List Char} (h : Framed text) :
    ∃ upper line, text = upper ++ '\n' :: (edge ++ line) ∧ '\n' ∉ line ∧
      closeLast text = upper ++ '\n' :: foot :: ' ' :: line := by
  obtain ⟨lines, hlen, hsplit⟩ := h
  match lines, hlen with
  | first :: second :: more, _ =>
    obtain ⟨others, last, hrest⟩ :=
      (List.eq_nil_or_concat (second :: more)).resolve_left (List.cons_ne_nil second more)
    rw [addEdges, hrest, List.concat_eq_append, List.map_append, List.map_singleton,
      ← List.cons_append] at hsplit
    have hlast : '\n' ∉ edge ++ last :=
      not_mem_of_mem_split (hsplit ▸ List.mem_append_right _ List.mem_cons_self)
    have htext := join_split '\n' text
    rw [hsplit, join_append_singleton (List.cons_ne_nil _ _)] at htext
    refine ⟨_, last, htext.symm, fun hm => hlast (List.mem_append_right edge hm), ?_⟩
    rw [← htext, List.append_cons, closeLast_append (.inr ⟨_, rfl⟩) hlast, closeLine_edge,
      ← List.append_cons]

theorem break_notMem_addEdges {lines : List (List Char)} (h : ∀ line ∈ lines, '\n' ∉ line) :
    ∀ line ∈ addEdges firstEdge edge lines, '\n' ∉ line := by
  have hedge : '\n' ∉ firstEdge ∧ '\n' ∉ edge := by decide
  have happend : ∀ {a b : List Char}, '\n' ∉ a → '\n' ∉ b → '\n' ∉ a ++ b := fun ha hb hm =>
    (List.mem_append.mp hm).elim ha hb
  cases lines with
  | nil => exact h
  | cons first rest =>
    intro line hline
    rcases List.mem_cons.mp hline with rfl | hline
    · exact happend hedge.1 (h first List.mem_cons_self)
    · obtain ⟨l, hl, rfl⟩ := List.mem_map.mp hline
      exact happend hedge.2 (h l (List.mem_cons_of_mem first hl))

/-- Each side of a line break is wrapped in one line at least. -/
theorem frames_fill : Frames fill := by
  intro columns text hbreak
  obtain ⟨before, after, rfl⟩ := List.append_of_mem hbreak
  have hlen : 2 ≤ (wrap (columns - edge.length) (before ++ '\n' :: after)).length := by
    have hbefore : 1 ≤ (wrap (columns - edge.length) before).length :=
      List.length_pos_iff.mpr (wrap_ne_nil _)
    have hafter : 1 ≤ (wrap (columns - edge.length) after).length :=
      List.length_pos_iff.mpr (wrap_ne_nil _)
    rw [wrap_append_break, List.length_append]
    exact Nat.add_le_add hbefore hafter
  refine ⟨_, hlen, split_join ?_ (break_notMem_addEdges fun line => break_notMem_wrap)⟩
  cases h : wrap (columns - edge.length) (before ++ '\n' :: after) with
  | nil => rw [h] at hlen; exact absurd hlen (by decide)
  | cons first rest => exact List.cons_ne_nil _ _

theorem Frames.framed {fill : Fill} (h : Frames fill) (terminal : Nat) (time : String)
    (origin : Origin) (r : LogRecord) : Framed (filled fill terminal time origin r) :=
  h _ _ (List.mem_append_right _ List.mem_cons_self)

/-! ## the laws -/

/-- What is changed in a text, whether its lines have edges or not. -/
structure FootLaws (text : List Char) : Prop where
  /-- behind edges it is the bar in front of the last line, and nothing else, -/
  framed : Framed text → ∃ upper line, text = upper ++ '\n' :: (edge ++ line) ∧ '\n' ∉ line ∧
    closeLast text = upper ++ '\n' :: foot :: ' ' :: line
  /-- and nothing where the last line has no bar -/
  unbarred : ∀ upper line, text = upper ++ line → WholeLines upper → '\n' ∉ line → bar ∉ line →
    closeLast text = text
  /-- in any text it is the first character of the first match of the pattern, -/
  replaced : ∀ before part after, footPattern.FirstMatch text before part after →
    ∃ rest, part = bar :: rest ∧ closeLast text = before ++ foot :: rest ++ after
  /-- which the search finds if there is one; without it nothing is changed -/
  searched : (footPattern.occursIn text = true ∧
      ∃ before part after, footPattern.FirstMatch text before part after) ∨
    (footPattern.occursIn text = false ∧ closeLast text = text)

theorem footLaws (text : List Char) : FootLaws text := by
  obtain ⟨upper, line, rfl, hu, hline⟩ := exists_lastLine text
  refine
    { framed := Framed.closeLast_eq
      unbarred := fun upper line htext hu hline hbar => ?_
      replaced := fun before part after h => ?_
      searched := ?_ }
  · rw [htext, closeLast_append hu hline, closeLine_of_not_mem hbar]
  · obtain ⟨a, b, rfl, ha, rfl, rfl, rfl⟩ := (firstMatch_footPattern_iff hu hline).mp h
    refine ⟨b, rfl, ?_⟩
    rw [closeLast_append hu hline, closeLine_append ha, List.append_nil, List.append_assoc]
    rfl
  · have hsearch := @Pattern.occursIn_iff_of_ofText? _ _ ofText?_footPattern (upper ++ line)
    by_cases hbar : bar ∈ line
    · obtain ⟨a, b, rfl, ha⟩ := List.eq_append_cons_of_mem hbar
      have hfirst := (firstMatch_footPattern_iff hu hline).mpr ⟨a, b, rfl, ha, rfl, rfl, rfl⟩
      exact .inl ⟨hsearch.mpr ⟨_, _, _, hfirst.text_eq, hfirst.part_matches⟩, _, _, _, hfirst⟩
    · refine .inr ⟨?_, by rw [closeLast_append hu hline, closeLine_of_not_mem hbar]⟩
      rw [← Bool.not_eq_true, hsearch]
      rintro ⟨before, part, after, htext, hm⟩
      obtain ⟨a, b, rfl, -⟩ := exists_of_matches_footPattern hu htext hm
      exact hbar (List.mem_append_right a List.mem_cons_self)

/-- The text of a record on the console. -/
structure PanelLaws (fill : Fill) (terminal : Nat) (time : String) (origin : Origin)
    (r : LogRecord) : Prop where
  /-- it is set in two lines or more, with their edges, -/
  framed : Framed (filled fill terminal time origin r)
  /-- the bar in front of the last line becomes the foot, and a line break follows -/
  closed : ∃ upper line, filled fill terminal time origin r = upper ++ '\n' :: (edge ++ line) ∧
    '\n' ∉ line ∧
      (text fill terminal time origin r).toList = upper ++ '\n' :: foot :: ' ' :: line ++ ['\n']

/-- The pattern is what its text says, one match at most is replaced in any text, and in the text of
a record it starts at the bar in front of the last line. -/
theorem panelLaws {fill : Fill} (h : Frames fill) :
    Pattern.ofText? "(┃)(.*)$".toList = some footPattern ∧ (∀ text, FootLaws text) ∧
      ∀ terminal time origin r, PanelLaws fill terminal time origin r := by
  refine ⟨ofText?_footPattern, footLaws, fun terminal time origin r => ?_⟩
  have hframed := h.framed terminal time origin r
  obtain ⟨upper, line, hfilled, hline, hclosed⟩ := hframed.closeLast_eq
  refine ⟨hframed, upper, line, hfilled, hline, ?_⟩
  show (String.ofList (closeLast (filled fill terminal time origin r) ++ ['\n'])).toList = _
  rw [String.toList_ofList, hclosed]

/-- Wrapped records, above all. -/
theorem panelLaws_fill : Frames fill ∧
    ∀ terminal time origin r, PanelLaws fill terminal time origin r :=
  ⟨frames_fill, (panelLaws frames_fill).2.2⟩

end Panel
end FireflyOverlay
