import WidgetPipeline.Directive.Extraction
import WidgetPipeline.Proofs.Text.LineSelection

/-!
# The lines that extraction keeps

Extraction empties the lines that directives cover, one directive after the other, and then leaves
out what is empty. That is a selection of lines: a line is kept if it is not empty and no directive
covers it (`keeps`), and the remaining code consists of just these lines (`toList_code`).
-/

namespace WidgetPipeline

/-- Whether the comment of the directive covers the line. -/
def Directive.covers (directive : Directive) (number : Nat) : Bool :=
  directive.firstLine ≤ number && number ≤ directive.lastLine

namespace Extraction

/-- Whether some directive covers the line. -/
def covered (directives : List Directive) (number : Nat) : Bool :=
  directives.any fun directive => directive.covers number

/-- Whether extraction keeps the line: it is not empty and no directive covers it. -/
def keeps (directives : List Directive) (source : List Char) (number : Nat) : Bool :=
  (Text.lines source)[number - 1]?.any (fun line => !line.isEmpty) && !covered directives number

/-- The number of kept lines up to a given one. -/
def keptUpTo (keep : Nat → Bool) (number : Nat) : Nat := (List.range' 1 number).countP keep

variable {directives : List Directive}

/-- Emptying lines for one directive after the other empties the lines that any of them covers. -/
theorem foldl_blankLines (directives : List Directive) (ls : List (List Char)) :
    directives.foldl
        (fun ls directive => blankLines directive.firstLine directive.lastLine ls) ls =
      ls.mapIdx fun index line => if covered directives (1 + index) then [] else line := by
  induction directives generalizing ls with
  | nil => simp [covered, List.mapIdx_eq_zipIdx_map]
  | cons directive directives ih =>
    rw [List.foldl_cons, ih, blankLines, List.mapIdx_mapIdx]
    congr 1
    funext index line
    simp only [Function.comp_apply, covered, List.any_cons, Directive.covers]
    grind

theorem filter_mapIdx_eq_selectLines {drop keep : Nat → Bool} {number : Nat}
    {ls : List (List Char)}
    (h : ∀ index line, ls[index]? = some line →
      keep (number + index) = (!line.isEmpty && !drop (number + index))) :
    (ls.mapIdx fun index line => if drop (number + index) then [] else line).filter (· ≠ []) =
      Text.selectLines keep number ls := by
  induction ls generalizing number with
  | nil => rfl
  | cons line ls ih =>
    have hfirst := h 0 line rfl
    have hnext : ∀ index other, ls[index]? = some other →
        keep (number + 1 + index) = (!other.isEmpty && !drop (number + 1 + index)) := by
      intro index other hother
      rw [Nat.add_assoc, Nat.add_comm 1 index]
      exact h (index + 1) other hother
    have hrest := ih hnext
    simp only [Nat.add_zero] at hfirst
    simp only [List.mapIdx_cons, Text.selectLines, ← hrest, hfirst, Nat.add_assoc,
      Nat.add_comm 1, List.filter_cons, Nat.add_zero]
    cases line <;> cases drop number <;> simp

/-- Extraction keeps the lines that are not empty after the covered ones have been emptied. -/
theorem selectLines_keeps (directives : List Directive) (source : List Char) :
    Text.selectLines (keeps directives source) 1 (Text.lines source) =
      (directives.foldl
        (fun ls directive => blankLines directive.firstLine directive.lastLine ls)
        (Text.lines source)).filter (· ≠ []) := by
  rw [foldl_blankLines]
  refine (filter_mapIdx_eq_selectLines ?_).symm
  intro index line hline
  simp [keeps, hline]

/-- What remains of a text are the lines that extraction keeps. -/
theorem toList_code (comments : CommentMap) (code : String) :
    (ofComments comments code).code.toList =
      ['\n'].intercalate (Text.selectLines
        (keeps (ofComments comments code).directives code.toList) 1 (Text.lines code.toList)) := by
  rw [selectLines_keeps]
  simp only [ofComments, joinNonempty, String.toList_ofList]

theorem joinNonempty_cons_nil (ls : List (List Char)) :
    joinNonempty ([] :: ls) = joinNonempty ls := by
  simp [joinNonempty]

theorem joinNonempty_cons {line : List Char} {ls : List (List Char)} (hline : line ≠ [])
    (hls : ∃ other ∈ ls, other ≠ []) :
    joinNonempty (line :: ls) = line ++ '\n' :: joinNonempty ls := by
  obtain ⟨other, hmem, hother⟩ := hls
  have hfilter : other ∈ ls.filter (· ≠ []) := by simp [hmem, hother]
  obtain ⟨first, rest, hcut⟩ := List.exists_cons_of_ne_nil (List.ne_nil_of_mem hfilter)
  rw [joinNonempty, joinNonempty, List.filter_cons_of_pos (by simpa using hline), hcut,
    Text.intercalate_cons, List.append_assoc, List.singleton_append]

/-- A text without empty lines from which nothing is taken stays as it is. -/
theorem joinNonempty_lines_intercalate {ls : List (List Char)} (hne : ∀ line ∈ ls, line ≠ [])
    (hline : ∀ line ∈ ls, '\n' ∉ line) :
    joinNonempty (Text.lines (['\n'].intercalate ls)) = ['\n'].intercalate ls := by
  rw [joinNonempty]
  cases ls with
  | nil => rfl
  | cons first rest =>
    rw [Text.lines_intercalate (List.cons_ne_nil _ _) hline, List.filter_eq_self.2]
    simpa using hne

/-- The kept lines up to a kept line are one more than the line breaks left in front of it. -/
theorem keptUpTo_of_keep {keep : Nat → Bool} {cs : List Char}
    (hkeep : keep (1 + Text.lineBreaks cs) = true) :
    keptUpTo keep (1 + Text.lineBreaks cs) = 1 + Text.lineBreaks (Text.onLines keep 1 cs) := by
  rw [Text.lineBreaks_onLines, keptUpTo, Nat.add_comm 1 (Text.lineBreaks cs),
    List.range'_1_concat, List.countP_append, List.countP_singleton, if_pos hkeep, Nat.add_comm]

theorem keptUpTo_add {keep : Nat → Bool} {before cs : List Char}
    (hfirst : keep (1 + Text.lineBreaks before) = true)
    (hlast : keep (1 + Text.lineBreaks before + Text.lineBreaks cs) = true) :
    keptUpTo keep (1 + Text.lineBreaks before) +
        Text.lineBreaks (Text.onLines keep (1 + Text.lineBreaks before) cs) =
      keptUpTo keep (1 + Text.lineBreaks before + Text.lineBreaks cs) := by
  rw [Nat.add_assoc, ← Text.lineBreaks_append] at hlast
  rw [Nat.add_assoc 1, ← Text.lineBreaks_append, keptUpTo_of_keep hlast, keptUpTo_of_keep hfirst,
    Text.onLines_append, Text.lineBreaks_append, Nat.add_assoc]

/-- What stands on a line that is not kept is a line break, or the line is covered. -/
theorem covered_of_keeps_eq_false {source before after : List Char} {c : Char}
    (hsource : source = before ++ c :: after) (hc : c ≠ '\n')
    (hdrop : keeps directives source (1 + Text.lineBreaks before) = false) :
    covered directives (1 + Text.lineBreaks before) = true := by
  obtain ⟨line, hline, hmem⟩ := Text.exists_line before after hc
  have hne : line.isEmpty = false := by
    cases line with
    | nil => simp at hmem
    | cons => rfl
  rw [← hsource] at hline
  simpa [keeps, hline, hne] using hdrop

end Extraction

end WidgetPipeline
