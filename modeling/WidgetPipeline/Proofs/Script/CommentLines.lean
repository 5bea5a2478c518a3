import WidgetPipeline.Proofs.Script.LineBreak
import WidgetPipeline.Proofs.Text.LineSelection

/-!
# Block comments without some of their lines

Where only empty lines are dropped from the inside of a block comment, the comment still ends where
it did (`splitAtBlockEnd_onLines`) and its content is the same (`blockContent_onLines`).
-/

namespace WidgetPipeline.Script

open Text (lineBreaks onLines)

variable {keep : Nat → Bool}

/-- Where a block comment ends is settled by its own characters. -/
theorem splitAtBlockEnd_inner {cs inner rest : List Char}
    (h : splitAtBlockEnd cs = some (inner, rest)) :
    splitAtBlockEnd (inner ++ ['*', '/']) = some (inner, []) := by
  obtain ⟨hcut, hfirst⟩ := splitAtBlockEnd_eq_some_iff.1 h
  refine splitAtBlockEnd_eq_some_iff.2 ⟨rfl, ?_⟩
  intro earlier later hearlier
  refine hfirst earlier (later ++ rest) ?_
  have hwhole := congrArg (· ++ rest) hearlier
  simp only [List.append_assoc, List.cons_append, List.nil_append] at hwhole
  rw [hcut, hwhole]

theorem splitAtBlockEnd_onLines {number : Nat} {inner : List Char}
    (h : splitAtBlockEnd (inner ++ ['*', '/']) = some (inner, []))
    (hlast : keep (number + lineBreaks inner) = true) :
    splitAtBlockEnd (onLines keep number inner ++ ['*', '/']) =
      some (onLines keep number inner, []) := by
  induction inner using Text.lines_induction generalizing number with
  | last line hline =>
    rw [Text.lineBreaks_eq_zero hline, Nat.add_zero] at hlast
    rwa [Text.onLines_of_keep hlast hline]
  | line line inner hline ih =>
    rw [List.append_assoc, List.cons_append] at h
    have hopen : splitAtBlockEnd line = none := by
      cases hsplit : splitAtBlockEnd line with
      | none => rfl
      | some pair =>
        have hwhole := splitAtBlockEnd_append hsplit ('\n' :: (inner ++ ['*', '/']))
        simp [hwhole] at h
    rw [splitAtBlockEnd_append_break hopen] at h
    obtain ⟨⟨inner', rest⟩, hinner, hpair⟩ := Option.map_eq_some_iff.1 h
    simp only [Prod.mk.injEq, List.append_cancel_left_eq, List.cons.injEq, true_and] at hpair
    obtain ⟨rfl, rfl⟩ := hpair
    rw [Text.lineBreaks_line_break hline, ← Nat.add_assoc] at hlast
    have htail := ih hinner hlast
    rw [Text.onLines_line_break hline]
    split
    · rw [List.append_assoc, List.cons_append, splitAtBlockEnd_append_break hopen, htail]
      rfl
    · exact htail

/-- Empty lines add nothing to a list of what lines contain. -/
theorem filter_map_lines_onLines {f : List Char → List Char} (hf : f [] = []) {number : Nat}
    {cs : List Char}
    (hempty : ∀ before c after, cs = before ++ c :: after →
      keep (number + lineBreaks before) = false → c = '\n')
    (hlast : keep (number + lineBreaks cs) = true) :
    ((Text.lines (onLines keep number cs)).map f).filter (· ≠ []) =
      ((Text.lines cs).map f).filter (· ≠ []) := by
  induction cs using Text.lines_induction generalizing number with
  | last line hline =>
    rw [Text.lineBreaks_eq_zero hline, Nat.add_zero] at hlast
    rw [Text.onLines_of_keep hlast hline]
  | line line rest hline ih =>
    rw [Text.lineBreaks_line_break hline, ← Nat.add_assoc] at hlast
    have hempty' : ∀ before c after, rest = before ++ c :: after →
        keep (number + 1 + lineBreaks before) = false → c = '\n' := by
      intro before c after hcut hdrop
      refine hempty (line ++ '\n' :: before) c after (by rw [hcut]; simp) ?_
      rwa [Text.lineBreaks_line_break hline, ← Nat.add_assoc]
    have hrest := ih hempty' hlast
    rw [Text.onLines_line_break hline, Text.lines_append_break hline]
    split
    · rw [Text.lines_append_break hline, List.map_cons, List.map_cons, List.filter_cons,
        List.filter_cons, hrest]
    · rename_i hdrop
      have hline' : line = [] := by
        cases line with
        | nil => rfl
        | cons c cs =>
          have hc := hempty [] c (cs ++ '\n' :: rest) rfl (by simpa using hdrop)
          simp [hc] at hline
      rw [hrest, hline', List.map_cons, hf, List.filter_cons]
      simp

theorem blockContent_onLines {number : Nat} {inner : List Char}
    (hempty : ∀ before c after, inner = before ++ c :: after →
      keep (number + lineBreaks before) = false → c = '\n')
    (hlast : keep (number + lineBreaks inner) = true) :
    blockContent (onLines keep number inner) = blockContent inner := by
  simp only [blockContent]
  rw [filter_map_lines_onLines (by rfl) hempty hlast]

end WidgetPipeline.Script
