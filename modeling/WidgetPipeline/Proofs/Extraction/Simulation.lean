import WidgetPipeline.Proofs.Extraction.Layout
import WidgetPipeline.Proofs.Script.CommentLines
import WidgetPipeline.Proofs.Script.Renumbering

/-!
# A scan of the kept lines follows the scan of the source

Two scans run side by side, one over the source and one over the characters on its kept lines
(`Follows`). On a kept line both read the same lexeme, but for the empty lines inside a block
comment (`Follows.matches`). On a dropped line the first scan reads white space and directives, and
the second waits (`Follows.step_dropped`). So the second finds what the first finds, directives left
out and lines renumbered (`Follows.steps`).
-/

namespace WidgetPipeline.Extraction

open Text (lineBreaks onLines)
open Script

/-- The scan of the kept lines is as far as the scan of the source, which has come through `before`.
-/
structure Follows (keep : Nat → Bool) (before : List Char) (state other : State) : Prop where
  alike : state.Alike (keptUpTo keep) other
  position : state.position = Position.advance {} before
  line : other.position.line = 1 + lineBreaks (onLines keep 1 before)

/-- A moment of the scan of a source: it has come through `before`, reads a lexeme, and the comments
of the source are those found so far, what is found now, and those still to come. -/
structure Moment (source : List Char) (comments : List (Nat × Comment)) (before : List Char)
    (state : State) (c : Char) (cs : List Char) (lexeme : Lexeme) (rest : List Char) : Prop where
  cut : source = before ++ c :: cs
  read : Lexeme.read? state c cs = some (lexeme, rest)
  sides : ∃ done later last, comments = done ++ (state.found lexeme ++ later) ∧
    InOrder source {} done state.position ∧
    InOrder source (state.after lexeme).position later last

variable {source before cs rest : List Char} {c : Char} {keep : Nat → Bool} {state other : State}
  {lexeme : Lexeme} {comments : List (Nat × Comment)}

namespace Follows

theorem number_eq (follows : Follows keep before state other) :
    state.position.line = 1 + lineBreaks before := by
  rw [follows.position]
  rfl

/-- On a kept line the second scan is on the line of the new number. -/
theorem line_eq (follows : Follows keep before state other)
    (hkeep : keep state.position.line = true) :
    other.position.line = keptUpTo keep state.position.line := by
  rw [follows.number_eq] at hkeep
  rw [follows.line, follows.number_eq, keptUpTo_of_keep hkeep]

/-- The second scan keeps up by reading what is left of the lexeme that the first scan reads. -/
theorem behind (follows : Follows keep before state other) {lexeme' : Lexeme}
    (alike : (state.after lexeme).Alike (keptUpTo keep) (other.after lexeme'))
    (text : lexeme'.text = onLines keep state.position.line lexeme.text) :
    Follows keep (before ++ lexeme.text) (state.after lexeme) (other.after lexeme') where
  alike := alike
  position := State.position_after follows.position lexeme
  line := by
    have hline : (other.after lexeme').position.line =
        other.position.line + lineBreaks lexeme'.text := rfl
    rw [hline, follows.line, text, Text.onLines_append, Text.lineBreaks_append, follows.number_eq,
      Nat.add_assoc]

/-- The second scan keeps up by waiting where nothing is left of the lexeme. -/
theorem waiting (follows : Follows keep before state other)
    (unchanged : state.after lexeme =
      { state with position := state.position.advance lexeme.text })
    (text : onLines keep state.position.line lexeme.text = []) :
    Follows keep (before ++ lexeme.text) (state.after lexeme) other where
  alike := by
    rw [unchanged]
    exact ⟨follows.alike.operandExpected, follows.alike.frames⟩
  position := State.position_after follows.position lexeme
  line := by
    rw [follows.number_eq] at text
    rw [follows.line, Text.onLines_append, text, List.append_nil]

end Follows

namespace Moment

variable (moment : Moment source comments before state c cs lexeme rest)

include moment

theorem text_append : lexeme.text ++ rest = c :: cs := Lexeme.read?_eq_some moment.read

/-- White space is the whole lexeme, and only the place changes. -/
theorem of_blank (hblank : Text.isBlank c = true) :
    lexeme.text = [c] ∧ rest = cs ∧ state.found lexeme = [] ∧
      state.after lexeme = { state with position := state.position.advance [c] } ∧
      ∀ ds, Lexeme.read? state c ds = some (lexeme, ds) := by
  obtain ⟨lexeme', hfound, hafter, hread⟩ := Lexeme.read?_blank state hblank
  obtain ⟨rfl, rfl⟩ : lexeme' = lexeme ∧ cs = rest := by
    simpa [hread] using moment.read
  have htext : lexeme'.text = [c] :=
    List.append_cancel_right (moment.text_append.trans (List.singleton_append).symm)
  exact ⟨htext, rfl, hfound, hafter, hread⟩

theorem mem_of_mem_found {entry : Nat × Comment} (h : entry ∈ state.found lexeme) :
    entry ∈ comments := by
  obtain ⟨done, later, _, hcomments, _⟩ := moment.sides
  simp [hcomments, h]

/-- A comment of the source stands in front of the lexeme, or is found now, or stands behind it. -/
theorem mem_cases {entry : Nat × Comment} (h : entry ∈ comments) :
    (∃ stop, Spans source entry.1 entry.2 stop ∧ stop ≤ state.position.offset ∧
        entry.2.lastLine ≤ state.position.line) ∨
      entry ∈ state.found lexeme ∨
      (state.after lexeme).position.offset ≤ entry.1 ∧
        (state.after lexeme).position.line ≤ entry.2.firstLine := by
  obtain ⟨done, later, last, hcomments, hdone, hlater⟩ := moment.sides
  rw [hcomments, List.mem_append, List.mem_append] at h
  rcases h with h | h | h
  · obtain ⟨stop, spans, _, hstop, _, hline⟩ := hdone.of_mem h
    exact .inl ⟨stop, spans, hstop, hline⟩
  · exact .inr (.inl h)
  · obtain ⟨_, _, hstart, _, hline, _⟩ := hlater.of_mem h
    exact .inr (.inr ⟨hstart, hline⟩)

/-- A directive that a byte of the lexeme belongs to is found now. -/
theorem found_of_inDirective {offset : Nat} (hlow : state.position.offset ≤ offset)
    (hhigh : offset < (state.after lexeme).position.offset)
    (h : InDirective source comments offset) :
    ∃ entry ∈ state.found lexeme, entry.2.isDirective = true := by
  obtain ⟨entry, hmem, hdirective, stop, spans, hstart, hstop⟩ := h
  rcases moment.mem_cases hmem with ⟨stop', spans', hbefore, _⟩ | hfound | ⟨hbehind, _⟩
  · have heq := (spans.unique spans').2
    omega
  · exact ⟨entry, hfound, hdirective⟩
  · omega

/-- A directive on a line between the first and the last line of the lexeme is found now. -/
theorem found_of_onDirectiveLine {number : Nat} (hlow : state.position.line < number)
    (hhigh : number < (state.after lexeme).position.line) (h : OnDirectiveLine comments number) :
    ∃ entry ∈ state.found lexeme, entry.2.isDirective = true := by
  obtain ⟨entry, hmem, hdirective, hfirst, hlast⟩ := h
  rcases moment.mem_cases hmem with ⟨_, _, _, habove⟩ | hfound | ⟨_, hbelow⟩
  · omega
  · exact ⟨entry, hfound, hdirective⟩
  · omega

/-- No line of a directive that is found is kept. -/
theorem keep_eq_false (sep : Separates keep source comments) {entry : Nat × Comment}
    (hmem : entry ∈ state.found lexeme) (hdirective : entry.2.isDirective = true) {number : Nat}
    (hlow : state.position.line ≤ number)
    (hhigh : number ≤ state.position.line + lineBreaks lexeme.text) : keep number = false := by
  obtain ⟨_, hcomment⟩ := State.eq_of_mem_found hmem
  obtain ⟨hfirst, hlast⟩ := State.lines_of_comment? moment.read hcomment
  exact sep.directive number
    ⟨entry, moment.mem_of_mem_found hmem, hdirective, by omega, by omega⟩

end Moment

/-! ## Dropped lines -/

/-- On a dropped line nothing is read but white space and whole directives. -/
theorem Follows.step_dropped (follows : Follows keep before state other)
    (sep : Separates keep source comments)
    (moment : Moment source comments before state c cs lexeme rest)
    (hdrop : keep state.position.line = false) :
    onLines keep state.position.line lexeme.text = [] ∧
      Follows keep (before ++ lexeme.text) (state.after lexeme) other ∧
      (state.found lexeme).filter (fun entry => !entry.2.isDirective) = [] := by
  cases hblank : Text.isBlank c with
  | true =>
    obtain ⟨htext, _, hfound, hafter, _⟩ := moment.of_blank hblank
    have hnone : onLines keep state.position.line lexeme.text = [] := by
      rw [htext, onLines, onLines, if_neg (by simp [hdrop])]
    exact ⟨hnone, follows.waiting (by rw [hafter, htext]) hnone, by rw [hfound]; rfl⟩
  | false =>
    have hc : c ≠ '\n' := (Text.ne_of_isBlank (by decide) hblank).symm
    have hin : InDirective source comments (Text.byteLength before) := by
      rw [follows.number_eq] at hdrop
      simpa [hblank] using (sep.dropped before c cs moment.cut hc hdrop).2
    have hoffset : state.position.offset = Text.byteLength before := by
      rw [follows.position]
      simp [Position.advance]
    obtain ⟨entry, hentry, hdirective⟩ := moment.found_of_inDirective (Nat.le_of_eq hoffset)
      (hoffset ▸ state.offset_lt_after lexeme) hin
    obtain ⟨hfound, hcomment⟩ := State.eq_of_mem_found hentry
    have hnone : onLines keep state.position.line lexeme.text = [] :=
      Text.onLines_of_dropped fun number hlow hhigh =>
        moment.keep_eq_false sep hentry hdirective hlow hhigh
    refine ⟨hnone, follows.waiting (State.after_of_comment? hcomment) hnone, ?_⟩
    simp [hfound, hdirective]

/-! ## Kept lines -/

/-- The second scan reads what is left of the lexeme that the first scan reads, and the comment that
it is stands on the renumbered lines. -/
structure Matches (keep : Nat → Bool) (state other : State) (c : Char) (cs : List Char)
    (lexeme : Lexeme) (rest : List Char) (lexeme' : Lexeme) (ds : List Char) : Prop where
  cut : onLines keep state.position.line (c :: cs) = c :: ds
  read : Lexeme.read? other c ds =
    some (lexeme', onLines keep (state.after lexeme).position.line rest)
  text : lexeme'.text = onLines keep state.position.line lexeme.text
  alike : (state.after lexeme).Alike (keptUpTo keep) (other.after lexeme')
  found : (other.found lexeme').map (·.2) =
    (state.found lexeme).map fun entry => entry.2.renumber (keptUpTo keep)

theorem Follows.matches_blank (follows : Follows keep before state other)
    (moment : Moment source comments before state c cs lexeme rest)
    (hkeep : keep state.position.line = true) (hblank : Text.isBlank c = true) :
    ∃ ds, Matches keep state other c cs lexeme rest lexeme ds := by
  obtain ⟨htext, rfl, hfound, hafter, hread⟩ := moment.of_blank hblank
  have hnumber : (if c = '\n' then state.position.line + 1 else state.position.line) =
      (state.after lexeme).position.line := by
    rw [hafter]
    simp only [Position.advance, Text.lineBreaks_cons, Text.lineBreaks_nil]
    split <;> rfl
  refine ⟨onLines keep (state.after lexeme).position.line rest, ?_, ?_, ?_, ?_, ?_⟩
  · rw [onLines, if_pos hkeep, hnumber]
  · rw [follows.alike.read?_eq, hread]
  · rw [htext, onLines, onLines, if_pos hkeep]
  · exact follows.alike.after lexeme (follows.line_eq hkeep)
  · refine State.found_renumber ?_ (follows.line_eq hkeep)
    rintro inner rfl
    simp [State.found, State.comment?] at hfound

theorem Follows.matches_line (follows : Follows keep before state other)
    {line tail rest' : List Char} (hkeep : keep state.position.line = true)
    (hline : '\n' ∉ c :: line) (ends : AtLineEnd tail) (htext : lexeme.text ++ rest' = c :: line)
    (hread : ∀ tail', AtLineEnd tail' → (tail = [] → tail' = []) →
      Lexeme.read? state c (line ++ tail') = some (lexeme, rest' ++ tail')) :
    ∃ ds, Matches keep state other c (line ++ tail) lexeme (rest' ++ tail) lexeme ds := by
  have hboth : '\n' ∉ lexeme.text ∧ '\n' ∉ rest' := by
    rw [← htext, List.mem_append, not_or] at hline
    exact hline
  have hsame : (state.after lexeme).position.line = state.position.line := by
    simp [State.after, Position.advance, Text.lineBreaks_eq_zero hboth.1]
  have hends : AtLineEnd (onLines keep state.position.line tail) ∧
      (tail = [] → onLines keep state.position.line tail = []) := by
    rcases ends with rfl | ⟨more, rfl⟩
    · exact ⟨.inl rfl, fun _ => rfl⟩
    · exact ⟨.inr ⟨_, by rw [onLines, if_pos hkeep]⟩, by simp⟩
  refine ⟨line ++ onLines keep state.position.line tail, ?_, ?_, ?_, ?_, ?_⟩
  · rw [← List.cons_append, Text.onLines_append_of_keep hkeep hline, List.cons_append]
  · rw [follows.alike.read?_eq, hread _ hends.1 hends.2, hsame,
      Text.onLines_append_of_keep hkeep hboth.2]
  · exact (Text.onLines_of_keep hkeep hboth.1).symm
  · exact follows.alike.after lexeme (follows.line_eq hkeep)
  · refine State.found_renumber ?_ (follows.line_eq hkeep)
    rintro inner rfl
    exact Text.lineBreaks_eq_zero fun hmem => hboth.1 (by simp [Lexeme.text, hmem])

namespace Moment

variable {inner : List Char}

/-- A kept line finds no directive. -/
theorem not_isDirective (moment : Moment source comments before state c cs lexeme rest)
    (sep : Separates keep source comments) (hkeep : keep state.position.line = true) :
    ∀ entry ∈ state.found lexeme, entry.2.isDirective = false := by
  intro entry hmem
  rw [← Bool.not_eq_true]
  intro hdirective
  have hdrop := moment.keep_eq_false sep hmem hdirective (Nat.le_refl _) (Nat.le_add_right _ _)
  simp [hkeep] at hdrop

/-- The last line of a comment whose first line is kept is kept: there stands its closing delimiter.
-/
theorem keep_lastLine (follows : Follows keep before state other)
    (moment : Moment source comments before state c cs (.blockComment inner) rest)
    (sep : Separates keep source comments) (hkeep : keep state.position.line = true) :
    keep (state.position.line + lineBreaks inner) = true := by
  rw [← Bool.not_eq_false]
  intro hdrop
  have hcut : source = (before ++ '/' :: '*' :: (inner ++ ['*'])) ++ '/' :: rest := by
    rw [moment.cut, ← moment.text_append]
    simp [Lexeme.text]
  have hnumber : 1 + lineBreaks (before ++ '/' :: '*' :: (inner ++ ['*'])) =
      state.position.line + lineBreaks inner := by
    rw [follows.number_eq]
    simp [Nat.add_assoc]
  have hlow : state.position.offset ≤
      Text.byteLength (before ++ '/' :: '*' :: (inner ++ ['*'])) := by
    simp [follows.position, Position.advance]
  have hhigh : Text.byteLength (before ++ '/' :: '*' :: (inner ++ ['*'])) <
      (state.after (.blockComment inner)).position.offset := by
    have hslash := Char.utf8Size_pos '/'
    simp only [State.after, Lexeme.text, follows.position, Position.advance,
      Text.byteLength_append, Text.byteLength_cons, Text.byteLength_nil]
    omega
  have hplain : Text.isBlank '/' = false := by decide
  have hin := (sep.dropped _ _ _ hcut (by decide) (by rw [hnumber, hdrop])).2
  simp only [hplain, Bool.false_eq_true, false_or] at hin
  obtain ⟨entry, hentry, hdirective⟩ := moment.found_of_inDirective hlow hhigh hin
  simp [moment.not_isDirective sep hkeep entry hentry] at hdirective

/-- From the inside of a comment whose first line is kept only empty lines are dropped. -/
theorem eq_break_of_dropped (follows : Follows keep before state other)
    (moment : Moment source comments before state c cs (.blockComment inner) rest)
    (sep : Separates keep source comments) (hkeep : keep state.position.line = true)
    {front behind : List Char} {d : Char} (hinner : inner = front ++ d :: behind)
    (hdrop : keep (state.position.line + lineBreaks front) = false) : d = '\n' := by
  refine Classical.byContradiction fun hd => ?_
  have hcut : source = (before ++ '/' :: '*' :: front) ++ d :: (behind ++ '*' :: '/' :: rest) := by
    rw [moment.cut, ← moment.text_append]
    simp [Lexeme.text, hinner]
  have hnumber : 1 + lineBreaks (before ++ '/' :: '*' :: front) =
      state.position.line + lineBreaks front := by
    rw [follows.number_eq]
    simp [Nat.add_assoc]
  -- A directive's line strictly inside the comment would make the comment the directive.
  have hline := (sep.dropped _ _ _ hcut hd (by rw [hnumber, hdrop])).1
  have hlast := moment.keep_lastLine follows sep hkeep
  have hbelow : 0 < lineBreaks front := by
    rcases Nat.eq_zero_or_pos (lineBreaks front) with hzero | hpos
    · simp [hzero, hkeep] at hdrop
    · exact hpos
  have habove : lineBreaks front < lineBreaks inner := by
    have hle : lineBreaks front ≤ lineBreaks inner := by simp [hinner]
    rcases Nat.lt_or_eq_of_le hle with hlt | heq
    · exact hlt
    · simp [heq, hlast] at hdrop
  have hlow : state.position.line < state.position.line + lineBreaks front := by omega
  have hhigh : state.position.line + lineBreaks front <
      (state.after (.blockComment inner)).position.line := by
    simp only [State.after, Lexeme.text, Position.advance, Text.lineBreaks_cons,
      Text.lineBreaks_append]
    omega
  obtain ⟨entry, hentry, hdirective⟩ :=
    moment.found_of_onDirectiveLine hlow hhigh (hnumber ▸ hline)
  simp [moment.not_isDirective sep hkeep entry hentry] at hdirective

end Moment

theorem Follows.matches_block {inner es : List Char} (follows : Follows keep before state other)
    (moment : Moment source comments before state '/' ('*' :: es) (.blockComment inner) rest)
    (sep : Separates keep source comments) (hkeep : keep state.position.line = true)
    (hcode : state.inTemplate = false) (hsplit : splitAtBlockEnd es = some (inner, rest)) :
    ∃ lexeme' ds,
      Matches keep state other '/' ('*' :: es) (.blockComment inner) rest lexeme' ds := by
  have hlast := moment.keep_lastLine follows sep hkeep
  have hinner := splitAtBlockEnd_onLines (splitAtBlockEnd_inner hsplit) hlast
  have hcontent : blockContent (onLines keep state.position.line inner) = blockContent inner :=
    blockContent_onLines
      (fun _ _ _ hcut hdrop => moment.eq_break_of_dropped follows sep hkeep hcut hdrop) hlast
  have htext : onLines keep state.position.line (Lexeme.blockComment inner).text =
      (Lexeme.blockComment (onLines keep state.position.line inner)).text := by
    have hopen : '\n' ∉ ['/', '*'] := by decide
    have hclose : '\n' ∉ ['*', '/'] := by decide
    have hcut : (Lexeme.blockComment inner).text = ['/', '*'] ++ (inner ++ ['*', '/']) := rfl
    rw [hcut, Text.onLines_append_of_keep hkeep hopen, Text.onLines_append,
      Text.onLines_of_keep hlast hclose]
    rfl
  have hnumber : (state.after (.blockComment inner)).position.line =
      state.position.line + lineBreaks (Lexeme.blockComment inner).text := rfl
  have halike := follows.alike.after (.blockComment inner) (follows.line_eq hkeep)
  have hend : keptUpTo keep state.position.line +
        lineBreaks (onLines keep state.position.line inner) =
      keptUpTo keep (state.position.line + lineBreaks inner) := by
    rw [follows.number_eq] at hkeep hlast ⊢
    exact keptUpTo_add hkeep hlast
  refine ⟨.blockComment (onLines keep state.position.line inner),
    '*' :: (onLines keep state.position.line inner ++ ['*', '/'] ++
      onLines keep (state.after (.blockComment inner)).position.line rest), ?_, ?_, htext.symm,
    ⟨halike.operandExpected, halike.frames⟩, ?_⟩
  · rw [← moment.text_append, Text.onLines_append, htext, hnumber]
    simp [Lexeme.text]
  · rw [Lexeme.read?_blockComment (by rw [follows.alike.inTemplate_eq, hcode]),
      splitAtBlockEnd_append hinner]
    rfl
  · simp [State.found, State.comment?, Comment.renumber, hcontent, hend, follows.line_eq hkeep]

/-- On a kept line the second scan reads what is left of the lexeme. -/
theorem Follows.matches (follows : Follows keep before state other)
    (sep : Separates keep source comments)
    (moment : Moment source comments before state c cs lexeme rest)
    (hkeep : keep state.position.line = true) :
    ∃ lexeme' ds, Matches keep state other c cs lexeme rest lexeme' ds := by
  cases hblank : Text.isBlank c with
  | true => exact ⟨lexeme, follows.matches_blank moment hkeep hblank⟩
  | false =>
    have hc : '\n' ≠ c := Text.ne_of_isBlank (by decide) hblank
    have hline : '\n' ∉ c :: cs.takeWhile (· ≠ '\n') := by
      simpa [hc] using not_mem_takeWhile cs
    have ends := atLineEnd_dropWhile cs
    have hcs := List.takeWhile_append_dropWhile (p := (· ≠ '\n')) (l := cs)
    have hread := moment.read
    rw [← hcs] at hread
    rcases Lexeme.read?_line ends hread with
      ⟨rest', htext, rfl, hsame⟩ | ⟨more, htail, hnone | ⟨front, hescape⟩⟩
    -- The lexeme ends on its line.
    · obtain ⟨ds, hmatches⟩ := follows.matches_line hkeep hline ends htext hsame
      rw [hcs] at hmatches
      exact ⟨lexeme, ds, hmatches⟩
    -- A block comment goes on behind the line, where empty lines may be missing.
    · obtain ⟨hcode, rfl, ds, hopen, _⟩ := Lexeme.of_read?_eq_none hnone
      obtain ⟨es, rfl⟩ : ∃ es, cs = '*' :: es := by
        rw [hopen] at hcs
        exact ⟨_, hcs.symm⟩
      have hblock := moment.read
      rw [Lexeme.read?_blockComment hcode] at hblock
      obtain ⟨⟨inner, rest'⟩, hsplit, hpair⟩ := Option.map_eq_some_iff.1 hblock
      simp only [Prod.mk.injEq] at hpair
      obtain ⟨rfl, rfl⟩ := hpair
      exact follows.matches_block moment sep hkeep hcode hsplit
    -- Nothing else goes on, since no line break is escaped.
    · refine absurd ?_ (sep.unescaped (before ++ front) more)
      rw [moment.cut, ← hcs, htail, ← List.cons_append, hescape]
      simp

/-! ## Steps -/

/-- The second scan follows a step of the first, and finds what that finds unless it is a directive.
-/
theorem Follows.step (follows : Follows keep before state other)
    (sep : Separates keep source comments)
    (moment : Moment source comments before state c cs lexeme rest) :
    ∃ found other',
      Steps other (onLines keep state.position.line (c :: cs)) found other'
        (onLines keep (state.after lexeme).position.line rest) ∧
      Follows keep (before ++ lexeme.text) (state.after lexeme) other' ∧
      found.map (·.2) = ((state.found lexeme).filter fun entry => !entry.2.isDirective).map
        fun entry => entry.2.renumber (keptUpTo keep) := by
  cases hkeep : keep state.position.line with
  | true =>
    obtain ⟨lexeme', ds, hmatches⟩ := follows.matches sep moment hkeep
    have hall : (state.found lexeme).filter (fun entry => !entry.2.isDirective) =
        state.found lexeme := by
      refine List.filter_eq_self.2 fun entry hmem => ?_
      rw [moment.not_isDirective sep hkeep entry hmem]
      rfl
    refine ⟨other.found lexeme', other.after lexeme', ?_,
      follows.behind hmatches.alike hmatches.text, ?_⟩
    · rw [hmatches.cut]
      exact .one hmatches.read
    · rw [hall, hmatches.found]
  | false =>
    obtain ⟨hnone, hfollows, hfound⟩ := follows.step_dropped sep moment hkeep
    refine ⟨[], other, ?_, hfollows, by rw [hfound]; rfl⟩
    have hnumber : (state.after lexeme).position.line =
        state.position.line + lineBreaks lexeme.text := rfl
    rw [← moment.text_append, Text.onLines_append, hnone, List.nil_append, hnumber]
    exact .refl _ _

/-- The second scan follows the first to the end of the source. -/
theorem Follows.steps {found : List (Nat × Comment)} {final : State}
    (follows : Follows keep before state other) (sep : Separates keep source comments)
    (steps : Steps state cs found final []) (hsource : source = before ++ cs)
    {done : List (Nat × Comment)} (hcomments : comments = done ++ found)
    (hdone : InOrder source {} done state.position) :
    ∃ found' final', Steps other (onLines keep state.position.line cs) found' final' [] ∧
      final.Alike (keptUpTo keep) final' ∧
      found'.map (·.2) = (found.filter fun entry => !entry.2.isDirective).map
        fun entry => entry.2.renumber (keptUpTo keep) := by
  -- By induction on the steps of the first scan. The second follows each by one step or by none.
  generalize hleft : ([] : List Char) = left at steps
  induction steps generalizing before other done with
  | refl state cs =>
    subst hleft
    exact ⟨[], other, .refl _ _, follows.alike, rfl⟩
  | @step state final c cs rest left lexeme later read steps ih =>
    have hbehind : source = (before ++ lexeme.text) ++ rest := by
      rw [hsource, List.append_assoc, Lexeme.read?_eq_some read]
    have hposition := State.position_after follows.position lexeme
    have hfound := found_inOrder hsource follows.position read
    have moment : Moment source comments before state c cs lexeme rest :=
      ⟨hsource, read, done, later, final.position, hcomments, hdone,
        steps.inOrder hbehind hposition⟩
    obtain ⟨found, next, hstep, hfollows, hsame⟩ := follows.step sep moment
    obtain ⟨found', final', hsteps, halike, hsame'⟩ :=
      ih hfollows hbehind (by rw [hcomments, List.append_assoc]) (hdone.append hfound) hleft
    refine ⟨found ++ found', final', ?_, halike, ?_⟩
    · subst hleft
      exact hstep.trans hsteps
    · rw [List.map_append, hsame, hsame', List.filter_append, List.map_append]

/-- A scan of the kept lines finds the comments of the source that are no directives. -/
theorem scanFrom_onLines (sep : Separates keep source comments)
    (hscan : scanFrom {} source = .ok comments) :
    ∃ found, scanFrom {} (onLines keep 1 source) = .ok found ∧
      found.map (·.2) = (comments.filter fun entry => !entry.2.isDirective).map
        fun entry => entry.2.renumber (keptUpTo keep) := by
  obtain ⟨final, steps, hclosed⟩ := scanFrom_eq_ok_iff.1 hscan
  have follows : Follows keep [] {} {} := ⟨⟨rfl, rfl⟩, rfl, rfl⟩
  obtain ⟨found, final', hsteps, halike, hsame⟩ :=
    follows.steps sep steps (List.nil_append source).symm (List.nil_append comments).symm
      (.nil (Nat.le_refl _) (Nat.le_refl _))
  refine ⟨found, scanFrom_eq_ok_iff.2 ⟨final', hsteps, ?_⟩, hsame⟩
  rw [halike.openTemplateLine?_eq, hclosed]
  rfl

end WidgetPipeline.Extraction
