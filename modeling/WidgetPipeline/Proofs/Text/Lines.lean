import WidgetPipeline.Proofs.Text.Pieces

/-!
# Lines of a text

A text is one line, or a line, a line break and a text (`line_cases`). Cutting a text into lines and
joining lines to a text undo each other (`lines_intercalate` beside `intercalate_pieces`), and the
byte length of a prefix says where a text is cut (`eq_of_byteLength_eq`).
-/

namespace WidgetPipeline.Text

@[simp] theorem lineBreaks_nil : lineBreaks [] = 0 := rfl

@[simp] theorem lineBreaks_cons (c : Char) (cs : List Char) :
    lineBreaks (c :: cs) = (if c = '\n' then 1 else 0) + lineBreaks cs := by
  simp only [lineBreaks, List.count_cons, beq_iff_eq]
  omega

theorem lineBreaks_eq_zero {cs : List Char} (h : '\n' ∉ cs) : lineBreaks cs = 0 :=
  List.count_eq_zero.2 h

theorem lineBreaks_line_break {line : List Char} (h : '\n' ∉ line) (rest : List Char) :
    lineBreaks (line ++ '\n' :: rest) = 1 + lineBreaks rest := by
  rw [lineBreaks_append, lineBreaks_eq_zero h, lineBreaks_cons, if_pos rfl, Nat.zero_add]

/-! ## Cutting and joining -/

theorem lines_of_not_mem {line : List Char} (h : '\n' ∉ line) : lines line = [line] :=
  pieces_of_not_mem h

theorem lines_append_break {line : List Char} (h : '\n' ∉ line) (rest : List Char) :
    lines (line ++ '\n' :: rest) = line :: lines rest :=
  pieces_append_separator h rest

/-- Every text is a line, or a line, a line break and a text. -/
theorem line_cases (cs : List Char) :
    '\n' ∉ cs ∨ ∃ line rest, '\n' ∉ line ∧ cs = line ++ '\n' :: rest := by
  by_cases h : '\n' ∈ cs
  · obtain ⟨line, rest, hcut, hline⟩ := List.eq_append_cons_of_mem h
    exact .inr ⟨line, rest, hline, hcut⟩
  · exact .inl h

/-- Induction on a text line by line. -/
@[elab_as_elim]
theorem lines_induction {motive : List Char → Prop}
    (last : ∀ line, '\n' ∉ line → motive line)
    (line : ∀ line rest, '\n' ∉ line → motive rest → motive (line ++ '\n' :: rest))
    (cs : List Char) : motive cs := by
  induction hn : cs.length using Nat.strongRecOn generalizing cs with
  | ind n ih =>
    rcases line_cases cs with h | ⟨first, rest, h, rfl⟩
    · exact last cs h
    · have hlt : rest.length < n := by
        simp only [List.length_append, List.length_cons] at hn
        omega
      exact line first rest h (ih rest.length hlt rest rfl)

theorem not_mem_of_mem_lines {cs line : List Char} (h : line ∈ lines cs) : '\n' ∉ line :=
  not_mem_of_mem_pieces h

theorem length_lines (cs : List Char) : (lines cs).length = lineBreaks cs + 1 := by
  induction cs using lines_induction with
  | last cs hcs => rw [lines_of_not_mem hcs, lineBreaks_eq_zero hcs]; rfl
  | line first rest hfirst ih =>
    rw [lines_append_break hfirst, List.length_cons, ih, lineBreaks_line_break hfirst]
    omega

/-- A line break at the end of a text is followed by one more line, which is empty. -/
theorem lines_concat_break (cs : List Char) : lines (cs ++ ['\n']) = lines cs ++ [[]] := by
  induction cs using lines_induction with
  | last line hline => rw [lines_append_break hline, lines_of_not_mem hline]; rfl
  | line line rest hline ih =>
    rw [List.append_assoc, List.cons_append, lines_append_break hline, lines_append_break hline, ih,
      List.cons_append]

/-- Lines joined to a text are cut out of it again. -/
theorem lines_intercalate {ls : List (List Char)} (hne : ls ≠ []) (h : ∀ line ∈ ls, '\n' ∉ line) :
    lines (['\n'].intercalate ls) = ls :=
  pieces_intercalate hne h

/-! ## Places in a text -/

/-- A character that is no line break is on the line that the line breaks in front of it count. -/
theorem exists_line (before after : List Char) {c : Char} (hc : c ≠ '\n') :
    ∃ line, (lines (before ++ c :: after))[lineBreaks before]? = some line ∧ c ∈ line := by
  induction before using lines_induction with
  | last before hbefore =>
    rw [lineBreaks_eq_zero hbefore]
    have hfront : ∀ more, '\n' ∉ more → '\n' ∉ before ++ c :: more := by
      intro more hmore hmem
      simp [hbefore, hmore, Ne.symm hc] at hmem
    rcases line_cases after with hafter | ⟨line, rest, hline, rfl⟩
    · exact ⟨before ++ c :: after, by simp [lines_of_not_mem (hfront after hafter)], by simp⟩
    · refine ⟨before ++ c :: line, ?_, by simp⟩
      rw [← List.cons_append, ← List.append_assoc, lines_append_break (hfront line hline)]
      rfl
  | line first rest hfirst ih =>
    obtain ⟨line, hline, hmem⟩ := ih
    refine ⟨line, ?_, hmem⟩
    rw [List.append_assoc, List.cons_append, lines_append_break hfirst,
      lineBreaks_line_break hfirst, ← hline]
    simp [Nat.add_comm 1]

theorem utf8ByteSize_ofList (cs : List Char) :
    (String.ofList cs).utf8ByteSize = byteLength cs := by
  induction cs with
  | nil => rfl
  | cons c cs ih =>
    rw [String.ofList_cons, String.utf8ByteSize_append, String.utf8ByteSize_singleton, ih,
      byteLength_cons]

/-- The bytes in front of a cut lead to the boundary of a character. -/
theorem isValid_byteLength (before after : List Char) :
    String.Pos.Raw.IsValid (String.ofList (before ++ after)) ⟨byteLength before⟩ := by
  refine String.Pos.Raw.isValid_iff_exists_append.2
    ⟨String.ofList before, String.ofList after, String.ofList_append, ?_⟩
  rw [String.Pos.Raw.ext_iff, String.byteIdx_rawEndPos, utf8ByteSize_ofList]

/-- The byte length of what stands in front of it says where a text is cut. -/
theorem eq_of_byteLength_eq {before before' after after' : List Char}
    (hcut : before ++ after = before' ++ after')
    (hlength : byteLength before = byteLength before') : before = before' := by
  induction before generalizing before' with
  | nil =>
    cases before' with
    | nil => rfl
    | cons c cs =>
      have hpos := c.utf8Size_pos
      simp only [byteLength_nil, byteLength_cons] at hlength
      omega
  | cons c cs ih =>
    cases before' with
    | nil =>
      have hpos := c.utf8Size_pos
      simp only [byteLength_nil, byteLength_cons] at hlength
      omega
    | cons d ds =>
      simp only [List.cons_append, List.cons.injEq] at hcut
      obtain ⟨rfl, hcut⟩ := hcut
      simp only [byteLength_cons, Nat.add_left_cancel_iff] at hlength
      rw [ih hcut hlength]

end WidgetPipeline.Text
