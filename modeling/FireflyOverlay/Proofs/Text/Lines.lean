import FireflyOverlay.Text.Wrap

/-!
# Lines of wrapped text

A text is its lines, with marks between them, and wrapping goes line by line.

* `Text.split_join`    pieces without the mark are read back from the joined text;
* `Text.split_append_mark`   at each mark a text may be cut;
* `Text.wrap_append_break`   and so may a text that is wrapped;
* `Text.break_notMem_wrap`   no line of a wrapped text goes over a line break.
-/

namespace FireflyOverlay
namespace Text

/-! ## pieces -/

section
variable {mark : Char}

theorem split_mark_cons (cs : List Char) : split mark (mark :: cs) = [] :: split mark cs :=
  if_pos rfl

theorem split_cons_of_ne {c : Char} (h : c ≠ mark) {cs piece : List Char}
    {pieces : List (List Char)} (hs : split mark cs = piece :: pieces) :
    split mark (c :: cs) = (c :: piece) :: pieces := by
  rw [split, if_neg h, hs]

theorem split_of_notMem {line : List Char} (h : mark ∉ line) : split mark line = [line] := by
  induction line with
  | nil => rfl
  | cons c cs ih =>
    have hc : c ≠ mark := fun e => h (e ▸ List.mem_cons_self)
    exact split_cons_of_ne hc (ih fun hm => h (List.mem_cons_of_mem _ hm))

theorem split_append_mark (a b : List Char) :
    split mark (a ++ mark :: b) = split mark a ++ split mark b := by
  induction a with
  | nil => exact split_mark_cons b
  | cons c cs ih =>
    by_cases hc : c = mark
    · rw [hc, List.cons_append, split_mark_cons, ih, split_mark_cons, List.cons_append]
    · obtain ⟨piece, pieces, hs⟩ := List.exists_cons_of_ne_nil (split_ne_nil mark cs)
      rw [hs, List.cons_append] at ih
      rw [List.cons_append, split_cons_of_ne hc ih, split_cons_of_ne hc hs, List.cons_append]

theorem join_append_singleton {pieces : List (List Char)} (h : pieces ≠ []) (last : List Char) :
    join mark (pieces ++ [last]) = join mark pieces ++ mark :: last := by
  induction pieces with
  | nil => exact absurd rfl h
  | cons piece pieces ih =>
    cases pieces with
    | nil => rfl
    | cons q qs =>
      have hne := List.cons_ne_nil q qs
      rw [List.cons_append, join_cons _ (List.append_ne_nil_of_left_ne_nil hne [last]), ih hne,
        join_cons _ hne, List.append_assoc, List.cons_append]

theorem split_join {pieces : List (List Char)} (hne : pieces ≠ []) (h : ∀ p ∈ pieces, mark ∉ p) :
    split mark (join mark pieces) = pieces := by
  induction pieces with
  | nil => exact absurd rfl hne
  | cons piece pieces ih =>
    have hpiece : split mark piece = [piece] := split_of_notMem (h piece List.mem_cons_self)
    cases pieces with
    | nil => exact hpiece
    | cons q qs =>
      have hrest := ih (List.cons_ne_nil q qs) fun p hp => h p (List.mem_cons_of_mem _ hp)
      rw [join_cons _ (List.cons_ne_nil q qs), split_append_mark, hpiece, hrest]
      rfl

end

/-! ## wrapped lines -/

section
variable {columns : Nat}

theorem wrap_ne_nil (text : List Char) : wrap columns text ≠ [] := by
  intro h
  obtain ⟨line, lines, hs⟩ := List.exists_cons_of_ne_nil (split_ne_nil '\n' text)
  have hline := List.flatMap_eq_nil_iff.mp h line (hs ▸ List.mem_cons_self)
  exact wrapLine_ne_nil columns line hline

theorem wrap_append_break (a b : List Char) :
    wrap columns (a ++ '\n' :: b) = wrap columns a ++ wrap columns b := by
  unfold wrap
  rw [split_append_mark, List.flatMap_append]

/-- A line shows characters of its words only. -/
theorem mem_setLine {ws : List Word} {c : Char} (h : c ∈ setLine ws) : ∃ w ∈ ws, c ∈ w.chars := by
  induction ws with
  | nil => exact absurd h List.not_mem_nil
  | cons w ws ih =>
    cases ws with
    | nil => exact ⟨w, List.mem_cons_self, List.mem_append_left _ h⟩
    | cons v vs =>
      rcases List.mem_append.mp h with h | h
      · exact ⟨w, List.mem_cons_self, h⟩
      · obtain ⟨x, hx, hc⟩ := ih h
        exact ⟨x, List.mem_cons_of_mem _ hx, hc⟩

theorem mem_of_mem_wrapLine {line set : List Char} (h : set ∈ wrapLine columns line) {c : Char}
    (hc : c ∈ set) : c ∈ line := by
  obtain ⟨ws, hws, rfl⟩ := List.mem_map.mp h
  obtain ⟨w, hw, hc⟩ := mem_setLine hc
  have hparagraph : w ∈ paragraph columns line := by
    rw [← flatten_layout (max 1 columns) (paragraph columns line)]
    exact List.mem_flatten.mpr ⟨ws, hws, hw⟩
  rw [← flatten_paragraph columns line]
  exact List.mem_flatten.mpr ⟨w.chars, List.mem_map.mpr ⟨w, hparagraph, rfl⟩, hc⟩

theorem break_notMem_wrap {text line : List Char} (h : line ∈ wrap columns text) : '\n' ∉ line := by
  obtain ⟨piece, hpiece, hline⟩ := List.mem_flatMap.mp h
  exact fun hc => not_mem_of_mem_split hpiece (mem_of_mem_wrapLine hline hc)

end

end Text
end FireflyOverlay
