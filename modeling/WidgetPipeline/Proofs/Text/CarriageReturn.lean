import WidgetPipeline.Proofs.Text.Lines

/-!
# Lines that end in a carriage return

`withReturns` ends every line of a text but the last with a carriage return. Its lines are counted
as before, and each of them puts one byte in front of what follows (`byteLength_withReturns`). White
space at the end of a line, and so the carriage return, is trimmed (`trim_append_blank`).
-/

namespace WidgetPipeline.Text

/-- The text with a carriage return in front of every line break. -/
def withReturns (cs : List Char) : List Char :=
  cs.flatMap fun c => if c = '\n' then ['\r', '\n'] else [c]

/-- The number of line breaks in the first bytes of a text. -/
def lineBreaksBefore : Nat → List Char → Nat
  | _, [] => 0
  | offset, c :: cs =>
    if offset = 0 then 0
    else (if c = '\n' then 1 else 0) + lineBreaksBefore (offset - c.utf8Size) cs

@[simp] theorem withReturns_nil : withReturns [] = [] := rfl

@[simp] theorem withReturns_break (cs : List Char) :
    withReturns ('\n' :: cs) = '\r' :: '\n' :: withReturns cs := rfl

theorem withReturns_cons {c : Char} (h : c ≠ '\n') (cs : List Char) :
    withReturns (c :: cs) = c :: withReturns cs := by
  simp [withReturns, h]

@[simp] theorem withReturns_append (cs ds : List Char) :
    withReturns (cs ++ ds) = withReturns cs ++ withReturns ds :=
  List.flatMap_append

theorem withReturns_of_not_mem {line : List Char} (h : '\n' ∉ line) : withReturns line = line := by
  induction line with
  | nil => rfl
  | cons c cs ih =>
    simp only [List.mem_cons, not_or] at h
    rw [withReturns_cons (Ne.symm h.1), ih h.2]

/-- A character of the text stays at the front of it, unless it is a line break. -/
theorem cons_of_withReturns_eq_cons {c : Char} (hreturn : c ≠ '\r') {cs rest : List Char}
    (h : withReturns cs = c :: rest) : ∃ tail, cs = c :: tail := by
  cases cs with
  | nil => simp at h
  | cons d ds =>
    by_cases hd : d = '\n'
    · rw [hd, withReturns_break] at h
      exact absurd (List.cons.inj h).1.symm hreturn
    · rw [withReturns_cons hd] at h
      exact ⟨ds, by rw [(List.cons.inj h).1]⟩

@[simp] theorem lineBreaks_withReturns (cs : List Char) :
    lineBreaks (withReturns cs) = lineBreaks cs := by
  induction cs with
  | nil => rfl
  | cons c cs ih =>
    by_cases hc : c = '\n'
    · simp [hc, ih]
    · simp [withReturns_cons hc, ih]

@[simp] theorem byteLength_withReturns (cs : List Char) :
    byteLength (withReturns cs) = byteLength cs + lineBreaks cs := by
  have hreturn : '\r'.utf8Size = 1 := by decide
  induction cs with
  | nil => rfl
  | cons c cs ih =>
    by_cases hc : c = '\n'
    · simp only [hc, withReturns_break, byteLength_cons, lineBreaks_cons, ih, hreturn, if_true]
      omega
    · simp only [withReturns_cons hc, byteLength_cons, lineBreaks_cons, ih, if_neg hc]
      omega

theorem lineBreaksBefore_append (before after : List Char) :
    lineBreaksBefore (byteLength before) (before ++ after) = lineBreaks before := by
  induction before with
  | nil => cases after <;> simp [lineBreaksBefore]
  | cons c cs ih =>
    have hpos := c.utf8Size_pos
    rw [List.cons_append, byteLength_cons, lineBreaksBefore, if_neg (by omega),
      Nat.add_sub_cancel_left, ih, lineBreaks_cons]

/-! ## Runs and lines -/

/-- A run of characters ends in front of a carriage return as it does in front of a line break. -/
theorem takeWhile_withReturns {p : Char → Bool} (hreturn : p '\r' = false) (hbreak : p '\n' = false)
    (cs : List Char) : (withReturns cs).takeWhile p = cs.takeWhile p := by
  induction cs with
  | nil => rfl
  | cons c cs ih =>
    by_cases hc : c = '\n'
    · simp [hc, hreturn, hbreak]
    · rw [withReturns_cons hc, List.takeWhile_cons, List.takeWhile_cons, ih]

theorem dropWhile_withReturns {p : Char → Bool} (hreturn : p '\r' = false) (hbreak : p '\n' = false)
    (cs : List Char) : (withReturns cs).dropWhile p = withReturns (cs.dropWhile p) := by
  induction cs with
  | nil => rfl
  | cons c cs ih =>
    by_cases hc : c = '\n'
    · simp [hc, hreturn, hbreak]
    · rw [withReturns_cons hc, List.dropWhile_cons, List.dropWhile_cons, ih]
      split
      · rfl
      · rw [withReturns_cons hc]

theorem trim_append_blank {c : Char} (h : isBlank c = true) (cs : List Char) :
    trim (cs ++ [c]) = trim cs := by
  have hend : ∀ ds, trimEnd (ds ++ [c]) = trimEnd ds := by
    intro ds
    simp [trimEnd, h]
  rw [trim, trim, trimStart, trimStart, List.dropWhile_append]
  split
  · rename_i hall
    rw [List.isEmpty_iff.1 hall]
    simp [h]
  · rw [hend]

/-- What lines contain does not change if their carriage returns do not matter. -/
theorem map_lines_withReturns {α : Type} {f : List Char → α}
    (hreturn : ∀ line, f (line ++ ['\r']) = f line) (cs : List Char) :
    (lines (withReturns cs)).map f = (lines cs).map f := by
  induction cs using lines_induction with
  | last line hline => rw [withReturns_of_not_mem hline]
  | line line rest hline ih =>
    have hline' : '\n' ∉ line ++ ['\r'] := by simpa using hline
    have hcut : withReturns (line ++ '\n' :: rest) =
        (line ++ ['\r']) ++ '\n' :: withReturns rest := by
      simp [withReturns_of_not_mem hline]
    rw [hcut, lines_append_break hline', lines_append_break hline, List.map_cons, List.map_cons,
      hreturn, ih]

end WidgetPipeline.Text
