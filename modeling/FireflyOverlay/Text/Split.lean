/-!
# Cutting text at a mark

* `Text.split`   the pieces of a text between the places of one character;
* `Text.join`    the pieces with the character between them, the inverse of `split`.
-/

namespace FireflyOverlay
namespace Text

def split (mark : Char) : List Char → List (List Char)
  | [] => [[]]
  | c :: cs =>
    if c = mark then [] :: split mark cs
    else match split mark cs with
      | [] => [[c]]
      | piece :: pieces => (c :: piece) :: pieces

def join (mark : Char) : List (List Char) → List Char
  | [] => []
  | [piece] => piece
  | piece :: pieces => piece ++ mark :: join mark pieces

theorem split_ne_nil (mark : Char) (cs : List Char) : split mark cs ≠ [] := by
  cases cs with
  | nil => simp [split]
  | cons c cs => rw [split]; split <;> (try split) <;> simp

theorem join_cons {mark : Char} (piece : List Char) {pieces : List (List Char)}
    (h : pieces ≠ []) : join mark (piece :: pieces) = piece ++ mark :: join mark pieces := by
  cases pieces with
  | nil => exact absurd rfl h
  | cons _ _ => rfl

theorem join_split (mark : Char) (cs : List Char) : join mark (split mark cs) = cs := by
  induction cs with
  | nil => rfl
  | cons c cs ih =>
    rw [split]
    split
    · next h => rw [join_cons _ (split_ne_nil mark cs), ih, h]; rfl
    · cases hp : split mark cs with
      | nil => exact absurd hp (split_ne_nil mark cs)
      | cons piece pieces =>
        rw [hp] at ih
        cases pieces with
        | nil => simpa [join] using ih
        | cons q qs => simpa [join] using ih

/-- No piece contains the mark. -/
theorem not_mem_of_mem_split {mark : Char} {cs piece : List Char} (h : piece ∈ split mark cs) :
    mark ∉ piece := by
  induction cs generalizing piece with
  | nil => simp_all [split]
  | cons c cs ih =>
    rw [split] at h
    split at h
    · rcases List.mem_cons.1 h with rfl | h
      · simp
      · exact ih h
    · next hc =>
      cases hp : split mark cs with
      | nil => exact absurd hp (split_ne_nil mark cs)
      | cons q qs =>
        rw [hp] at h ih
        rcases List.mem_cons.1 h with rfl | h
        · have hq := ih (List.mem_cons_self : q ∈ q :: qs)
          simp [Ne.symm hc, hq]
        · exact ih (List.mem_cons_of_mem _ h)

end Text
end FireflyOverlay
