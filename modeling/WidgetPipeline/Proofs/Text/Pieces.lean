import WidgetPipeline.Text.Pieces

/-!
# Cutting at a separator

The pieces of a text are what stands between its separators: no piece has a separator in it
(`not_mem_of_mem_pieces`), and pieces that are joined are cut out again (`pieces_intercalate` beside
`intercalate_pieces`).
-/

namespace WidgetPipeline.Text

variable {separator : Char} {piece cs : List Char} {ps : List (List Char)}

theorem pieces_of_not_mem (h : separator ∉ piece) : pieces separator piece = [piece] := by
  induction piece with
  | nil => rfl
  | cons c cs ih =>
    have hc : c ≠ separator := fun heq => h (by simp [heq])
    have htail : pieces separator cs = [cs] := ih fun hmem => h (by simp [hmem])
    simp [pieces, htail, hc]

theorem pieces_append_separator (h : separator ∉ piece) (rest : List Char) :
    pieces separator (piece ++ separator :: rest) = piece :: pieces separator rest := by
  induction piece with
  | nil => simp [pieces]
  | cons c cs ih =>
    have hc : c ≠ separator := fun heq => h (by simp [heq])
    have htail : pieces separator (cs ++ separator :: rest) = cs :: pieces separator rest :=
      ih fun hmem => h (by simp [hmem])
    simp [pieces, htail, hc]

theorem not_mem_of_mem_pieces (h : piece ∈ pieces separator cs) : separator ∉ piece := by
  induction cs generalizing piece with
  | nil =>
    obtain rfl : piece = [] := by simpa [pieces] using h
    simp
  | cons c cs ih =>
    obtain ⟨first, rest, hcut⟩ := List.exists_cons_of_ne_nil (pieces_ne_nil separator cs)
    have hfirst : separator ∉ first := ih (by simp [hcut])
    have hrest : ∀ other ∈ rest, separator ∉ other := fun other hmem => ih (by simp [hcut, hmem])
    by_cases hc : c = separator
    · rw [pieces, if_pos hc, hcut] at h
      rcases List.mem_cons.1 h with rfl | h
      · simp
      · exact ih (hcut ▸ h)
    · simp only [pieces, if_neg hc, hcut] at h
      rcases List.mem_cons.1 h with rfl | h
      · simp [Ne.symm hc, hfirst]
      · exact hrest piece h

theorem intercalate_cons {separator first second : List Char} {rest : List (List Char)} :
    separator.intercalate (first :: second :: rest) =
      first ++ separator ++ separator.intercalate (second :: rest) := by
  simp [List.intercalate, List.append_assoc]

/-- Pieces joined to a text are cut out of it again. -/
theorem pieces_intercalate (hne : ps ≠ []) (h : ∀ piece ∈ ps, separator ∉ piece) :
    pieces separator ([separator].intercalate ps) = ps := by
  induction ps with
  | nil => exact absurd rfl hne
  | cons first rest ih =>
    have hfirst : separator ∉ first := h first List.mem_cons_self
    cases rest with
    | nil => simpa [List.intercalate] using pieces_of_not_mem hfirst
    | cons second rest =>
      have htail := ih (List.cons_ne_nil _ _) fun piece hmem =>
        h piece (List.mem_cons_of_mem _ hmem)
      rw [intercalate_cons, List.append_assoc, List.singleton_append,
        pieces_append_separator hfirst, htail]

/-- Joining pieces adds nothing but separators. -/
theorem mem_intercalate_iff {c : Char} (h : c ≠ separator) :
    c ∈ [separator].intercalate ps ↔ ∃ piece ∈ ps, c ∈ piece := by
  induction ps with
  | nil => simp [List.intercalate]
  | cons first rest ih =>
    cases rest with
    | nil => simp [List.intercalate]
    | cons second rest =>
      rw [intercalate_cons, List.mem_append, List.mem_append, ih]
      simp [h]

/-! ## White space at the ends -/

theorem trimStart_blank {c : Char} (h : isBlank c = true) (cs : List Char) :
    trimStart (c :: cs) = trimStart cs := by
  simp [trimStart, h]

theorem trimStart_cons {c : Char} (h : isBlank c = false) (cs : List Char) :
    trimStart (c :: cs) = c :: cs := by
  simp [trimStart, h]

theorem trimEnd_concat {c : Char} (h : isBlank c = false) (cs : List Char) :
    trimEnd (cs ++ [c]) = cs ++ [c] := by
  simp [trimEnd, h]

end WidgetPipeline.Text
