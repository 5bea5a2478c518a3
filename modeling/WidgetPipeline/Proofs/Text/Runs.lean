/-!
# Runs of characters

A text is cut behind the longest run of characters of a class at its front: that is the one way to
cut it into such characters and a rest that does not begin with one (`takeWhile_dropWhile_iff`).
-/

namespace WidgetPipeline.Text

variable {p : Char → Bool} {cs run ahead : List Char}

theorem takeWhile_run (hrun : ∀ c ∈ run, p c = true) (hahead : ∀ c ∈ ahead.head?, p c = false) :
    (run ++ ahead).takeWhile p = run := by
  rw [List.takeWhile_append_of_pos hrun]
  cases ahead with
  | nil => simp
  | cons c cs => simp [hahead c rfl]

theorem dropWhile_run (hrun : ∀ c ∈ run, p c = true) (hahead : ∀ c ∈ ahead.head?, p c = false) :
    (run ++ ahead).dropWhile p = ahead := by
  rw [List.dropWhile_append_of_pos hrun]
  cases ahead with
  | nil => simp
  | cons c cs => simp [hahead c rfl]

theorem takeWhile_dropWhile_iff :
    cs.takeWhile p = run ∧ cs.dropWhile p = ahead ↔
      cs = run ++ ahead ∧ (∀ c ∈ run, p c = true) ∧ ∀ c ∈ ahead.head?, p c = false := by
  constructor
  · rintro ⟨rfl, rfl⟩
    refine ⟨List.takeWhile_append_dropWhile.symm, List.all_eq_true.1 List.all_takeWhile, ?_⟩
    intro c hc
    have hhead := List.head?_dropWhile_not p cs
    rw [Option.mem_def.1 hc] at hhead
    simpa using hhead
  · rintro ⟨rfl, hrun, hahead⟩
    exact ⟨takeWhile_run hrun hahead, dropWhile_run hrun hahead⟩

end WidgetPipeline.Text
