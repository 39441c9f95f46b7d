/-!
A run of characters and what ends it, such as a mark: the run is taken whole, and the
mark and what follows are left.
-/

namespace ServerLogin.Text

/-- What a run leaves does not begin with another one. -/
theorem takeWhile_dropWhile (p : Char → Bool) (cs : List Char) :
    (cs.dropWhile p).takeWhile p = [] := by
  induction cs with
  | nil => rfl
  | cons c rest ih =>
    rw [List.dropWhile_cons]
    split
    · exact ih
    · next hc => rw [List.takeWhile_cons, if_neg hc]

section Run

variable {p : Char → Bool} {run : List Char} (hrun : ∀ c ∈ run, p c = true)
include hrun

theorem takeWhile_append_of_head {rest : List Char} (hrest : ∀ c ∈ rest.head?, p c = false) :
    (run ++ rest).takeWhile p = run := by
  rw [List.takeWhile_append_of_pos hrun]
  cases rest with
  | nil => exact List.append_nil run
  | cons c more =>
    rw [List.takeWhile_cons, hrest c rfl]
    exact List.append_nil run

theorem dropWhile_append_of_head {rest : List Char} (hrest : ∀ c ∈ rest.head?, p c = false) :
    (run ++ rest).dropWhile p = rest := by
  rw [List.dropWhile_append_of_pos hrun]
  cases rest with
  | nil => rfl
  | cons c more =>
    rw [List.dropWhile_cons, hrest c rfl]
    rfl

variable {mark : Char} (hmark : p mark = false)
include hmark

theorem takeWhile_run (rest : List Char) : (run ++ mark :: rest).takeWhile p = run := by
  apply takeWhile_append_of_head hrun
  rintro _ ⟨⟩
  exact hmark

theorem dropWhile_run (rest : List Char) : (run ++ mark :: rest).dropWhile p = mark :: rest := by
  apply dropWhile_append_of_head hrun
  rintro _ ⟨⟩
  exact hmark

/-- The mark tells a run from what follows it. -/
theorem run_append_inj {other x y : List Char} (hother : ∀ c ∈ other, p c = true)
    (heq : run ++ mark :: x = other ++ mark :: y) : run = other ∧ x = y := by
  constructor
  · rw [← takeWhile_run hrun hmark x, heq, takeWhile_run hother hmark]
  · have hrest : mark :: x = mark :: y := by
      rw [← dropWhile_run hrun hmark x, heq, dropWhile_run hother hmark]
    exact List.tail_eq_of_cons_eq hrest

end Run

end ServerLogin.Text
