import WidgetPipeline.Proofs.Text.Lines

/-!
# A text without some of its lines

A selection says of each line number whether the line is kept. `onLines` takes the characters of the
kept lines, each with the line break behind it, so that it can follow a scan through the middle of a
line. `selectLines` takes the kept lines out of a list of lines. The two differ by at most a line
break at the end (`onLines_eq`).
-/

namespace WidgetPipeline.Text

variable {keep : Nat → Bool}

/-- The characters on kept lines, line breaks included, of a text that starts on line `number`. -/
def onLines (keep : Nat → Bool) (number : Nat) : List Char → List Char
  | [] => []
  | c :: cs =>
    let rest := onLines keep (if c = '\n' then number + 1 else number) cs
    if keep number then c :: rest else rest

/-- The kept lines of those that are numbered from `number` on. -/
def selectLines (keep : Nat → Bool) (number : Nat) : List (List Char) → List (List Char)
  | [] => []
  | line :: rest =>
    if keep number then line :: selectLines keep (number + 1) rest
    else selectLines keep (number + 1) rest

theorem onLines_append (number : Nat) (cs ds : List Char) :
    onLines keep number (cs ++ ds) =
      onLines keep number cs ++ onLines keep (number + lineBreaks cs) ds := by
  induction cs generalizing number with
  | nil => rfl
  | cons c cs ih =>
    have hnumber : number + lineBreaks (c :: cs) =
        (if c = '\n' then number + 1 else number) + lineBreaks cs := by
      rw [lineBreaks_cons]
      split <;> omega
    rw [List.cons_append, onLines, onLines, ih, hnumber]
    split <;> rfl

theorem onLines_of_keep {number : Nat} {line : List Char} (hkeep : keep number = true)
    (hline : '\n' ∉ line) : onLines keep number line = line := by
  induction line with
  | nil => rfl
  | cons c cs ih =>
    simp only [List.mem_cons, not_or] at hline
    rw [onLines, if_neg (Ne.symm hline.1), if_pos hkeep, ih hline.2]

theorem onLines_append_of_keep {number : Nat} {front : List Char} (hkeep : keep number = true)
    (hfront : '\n' ∉ front) (cs : List Char) :
    onLines keep number (front ++ cs) = front ++ onLines keep number cs := by
  rw [onLines_append, onLines_of_keep hkeep hfront, lineBreaks_eq_zero hfront, Nat.add_zero]

/-- Nothing is left of a text all of whose lines are dropped. -/
theorem onLines_of_dropped {number : Nat} {cs : List Char}
    (hdrop : ∀ other, number ≤ other → other ≤ number + lineBreaks cs → keep other = false) :
    onLines keep number cs = [] := by
  induction cs generalizing number with
  | nil => rfl
  | cons c cs ih =>
    have hfirst : keep number = false := hdrop number (Nat.le_refl _) (Nat.le_add_right _ _)
    simp only [lineBreaks_cons] at hdrop
    rw [onLines, if_neg (by simp [hfirst])]
    split
    · exact ih fun other hlow hhigh => hdrop other (by omega) (by rw [if_pos ‹_›]; omega)
    · exact ih fun other hlow hhigh => hdrop other (by omega) (by rw [if_neg ‹_›]; omega)

theorem onLines_line {number : Nat} {line : List Char} (hline : '\n' ∉ line) :
    onLines keep number line = if keep number then line else [] := by
  split
  · rename_i hkeep
    exact onLines_of_keep hkeep hline
  · rename_i hdrop
    refine onLines_of_dropped fun other hlow hhigh => ?_
    rw [lineBreaks_eq_zero hline] at hhigh
    obtain rfl : other = number := by omega
    simpa using hdrop

theorem onLines_line_break {number : Nat} {line : List Char} (hline : '\n' ∉ line)
    (rest : List Char) :
    onLines keep number (line ++ '\n' :: rest) =
      if keep number then line ++ '\n' :: onLines keep (number + 1) rest
      else onLines keep (number + 1) rest := by
  rw [onLines_append, lineBreaks_eq_zero hline, Nat.add_zero, onLines_line hline, onLines,
    if_pos rfl]
  split <;> rfl

/-- The line breaks that are left are those of the kept lines in front of the last line. -/
theorem lineBreaks_onLines (number : Nat) (cs : List Char) :
    lineBreaks (onLines keep number cs) = (List.range' number (lineBreaks cs)).countP keep := by
  induction cs using lines_induction generalizing number with
  | last line hline =>
    rw [onLines_line hline, lineBreaks_eq_zero hline]
    split
    · exact lineBreaks_eq_zero hline
    · rfl
  | line line rest hline ih =>
    rw [onLines_line_break hline, lineBreaks_line_break hline, Nat.add_comm 1, List.range'_succ,
      List.countP_cons, ← ih]
    split
    · rw [lineBreaks_line_break hline, Nat.add_comm]
    · rfl

/-! ## Selected lines -/

theorem mem_of_mem_selectLines {number : Nat} {ls : List (List Char)} {line : List Char}
    (h : line ∈ selectLines keep number ls) : line ∈ ls := by
  induction ls generalizing number with
  | nil => exact h
  | cons first rest ih =>
    rw [selectLines] at h
    split at h
    · rcases List.mem_cons.1 h with rfl | h
      · exact List.mem_cons_self
      · exact List.mem_cons_of_mem _ (ih h)
    · exact List.mem_cons_of_mem _ (ih h)

/-- The characters on kept lines are the kept lines joined, up to a line break at the end. -/
theorem onLines_eq (keep : Nat → Bool) (number : Nat) (cs : List Char) :
    onLines keep number cs = ['\n'].intercalate (selectLines keep number (lines cs)) ∨
      selectLines keep number (lines cs) ≠ [] ∧
        onLines keep number cs =
          ['\n'].intercalate (selectLines keep number (lines cs)) ++ ['\n'] := by
  induction cs using lines_induction generalizing number with
  | last line hline =>
    left
    rw [onLines_line hline, lines_of_not_mem hline]
    cases hkeep : keep number <;> simp [selectLines, hkeep, List.intercalate]
  | line line rest hline ih =>
    rw [onLines_line_break hline, lines_append_break hline, selectLines]
    cases hkeep : keep number with
    | false => simpa using ih (number + 1)
    | true =>
      simp only [if_true]
      have hrest := ih (number + 1)
      cases hlines : selectLines keep (number + 1) (lines rest) with
      | nil =>
        simp only [hlines, List.intercalate, ne_eq, not_true_eq_false, false_and, or_false,
          List.intersperse_nil, List.flatten_nil] at hrest
        right
        simp [List.intercalate, hrest]
      | cons second others =>
        rw [hlines] at hrest
        rw [intercalate_cons]
        rcases hrest with hrest | ⟨_, hrest⟩
        · left
          rw [hrest]
          simp
        · right
          rw [hrest]
          simp

end WidgetPipeline.Text
