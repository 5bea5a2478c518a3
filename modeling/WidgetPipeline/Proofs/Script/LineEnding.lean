import WidgetPipeline.Proofs.Script.LineBreak
import WidgetPipeline.Proofs.Script.Span
import WidgetPipeline.Proofs.Text.CarriageReturn
import WidgetPipeline.Proofs.Text.Runs

/-!
# Sources whose lines end in a carriage return

A carriage return in front of every line break does not change what a scan finds, but for the offsets
(`scanComments_withReturns`), if no backslash protects a line break. The return is either white space
between two lexemes, or it is read at the end of a comment or of quoted text that nothing closes, which
then leaves only the break to be read (`Resumes`). Comments lose it with the white space around them,
so that each lexeme has the effect that it has without it (`Lexeme.read?_withReturns`).
-/

namespace WidgetPipeline.Script

open Text (withReturns)

/-- The text that is left with returns is the text that is left without them, with its returns. The
first return may have been read already. -/
def Resumes (rest rest' : List Char) : Prop :=
  rest' = withReturns rest ∨ ∃ later, rest = '\n' :: later ∧ rest' = '\n' :: withReturns later

/-- A scan goes on in the same way behind the lexemes, and keeps the same comment of them if any. -/
structure Lexeme.SameEffect (lexeme other : Lexeme) : Prop where
  comment : ∀ state : State, state.comment? other = state.comment? lexeme
  frames : ∀ state : State, state.framesAfter other = state.framesAfter lexeme
  operandExpected : ∀ state : State,
    state.operandExpectedAfter other = state.operandExpectedAfter lexeme

/-- What is read with returns, beside what is read without them. -/
def Returned (read read' : Lexeme × List Char) : Prop :=
  read.1.SameEffect read'.1 ∧ Resumes read.2 read'.2

theorem Lexeme.SameEffect.refl (lexeme : Lexeme) : lexeme.SameEffect lexeme :=
  ⟨fun _ => rfl, fun _ => rfl, fun _ => rfl⟩

theorem Returned.same (lexeme : Lexeme) (rest : List Char) :
    Returned (lexeme, rest) (lexeme, withReturns rest) :=
  ⟨.refl lexeme, .inl rfl⟩

/-! ## The splitters -/

section Splitters

variable {cs : List Char}

theorem not_escaped_tail {c : Char} (h : ¬ ['\\', '\n'] <:+: c :: cs) : ¬ ['\\', '\n'] <:+: cs :=
  fun hcs => h (hcs.trans (List.suffix_cons c cs).isInfix)

theorem ne_break_of_not_escaped {c : Char} (h : ¬ ['\\', '\n'] <:+: '\\' :: c :: cs) :
    c ≠ '\n' := by
  rintro rfl
  exact h (List.prefix_append ['\\', '\n'] cs).isInfix

/-- Returns do not put a character to the front of a text. -/
theorem not_cons_of_withReturns {c : Char} (hreturn : c ≠ '\r')
    (h : ∀ ds, cs = c :: ds → False) : ∀ ds, withReturns cs = c :: ds → False := by
  intro ds hcs
  obtain ⟨tail, htail⟩ := Text.cons_of_withReturns_eq_cons hreturn hcs
  exact h tail htail

theorem splitAtBlockEnd_withReturns (cs : List Char) :
    splitAtBlockEnd (withReturns cs) =
      (splitAtBlockEnd cs).map fun (inner, rest) => (withReturns inner, withReturns rest) := by
  fun_induction splitAtBlockEnd cs with
  | case1 => rfl
  | case2 rest => rfl
  | case3 c cs hopen ih =>
    by_cases hbreak : c = '\n'
    · rw [hbreak, Text.withReturns_break, splitAtBlockEnd.eq_3 _ _ (by simp),
        splitAtBlockEnd.eq_3 _ _ (by simp), ih, Option.map_map, Option.map_map, Option.map_map]
      rfl
    · have hopen' : ∀ rest, c = '*' → withReturns cs = '/' :: rest → False := by
        intro rest hc
        exact not_cons_of_withReturns (by decide) (fun ds => hopen ds hc) rest
      rw [Text.withReturns_cons hbreak, splitAtBlockEnd.eq_3 _ _ hopen', ih, Option.map_map,
        Option.map_map]
      congr 1
      funext pair
      simp [Text.withReturns_cons hbreak]

theorem splitRegexBody_withReturns (inClass : Bool) (h : ¬ ['\\', '\n'] <:+: cs) :
    splitRegexBody inClass (withReturns cs) =
      (splitRegexBody inClass cs).map fun (body, rest) => (body, withReturns rest) := by
  fun_induction splitRegexBody inClass cs with
  | case1 => rfl
  | case2 inClass cs =>
    rw [Text.withReturns_break, splitRegexBody_plain inClass (by decide) (by decide) (by decide)
      (by decide), if_neg (by simp)]
    rfl
  | case3 => rfl
  | case4 inClass cs => exact absurd rfl (ne_break_of_not_escaped h)
  | case5 inClass c cs hbreak ih =>
    have htail := not_escaped_tail (not_escaped_tail h)
    rw [Text.withReturns_cons (by decide), Text.withReturns_cons hbreak,
      splitRegexBody_escaped inClass hbreak, ih htail, Option.map_map, Option.map_map]
    rfl
  | case6 inClass cs ih =>
    rw [Text.withReturns_cons (by decide), splitRegexBody.eq_6, ih (not_escaped_tail h),
      Option.map_map, Option.map_map]
    rfl
  | case7 inClass cs ih =>
    rw [Text.withReturns_cons (by decide), splitRegexBody.eq_7, ih (not_escaped_tail h),
      Option.map_map, Option.map_map]
    rfl
  | case8 inClass c cs hbreak hlone hprotected hescape hopen hclose hend =>
    have hplain : c ≠ '\\' := by cases cs <;> grind
    rw [Text.withReturns_cons hbreak, splitRegexBody_plain inClass hplain hbreak hopen hclose,
      if_pos hend]
    rfl
  | case9 inClass c cs hbreak hlone hprotected hescape hopen hclose hend ih =>
    have hplain : c ≠ '\\' := by cases cs <;> grind
    rw [Text.withReturns_cons hbreak, splitRegexBody_plain inClass hplain hbreak hopen hclose,
      if_neg hend, ih (not_escaped_tail h), Option.map_map, Option.map_map]
    rfl

/-- Quoted text is closed by the same mark, or takes in the return at the end of its line. -/
theorem splitQuoted_withReturns {mark : Char} (hmark : mark ≠ '\r')
    (h : ¬ ['\\', '\n'] <:+: cs) :
    (splitQuoted mark (withReturns cs)).2.1 = (splitQuoted mark cs).2.1 ∧
      Resumes (splitQuoted mark cs).2.2 (splitQuoted mark (withReturns cs)).2.2 := by
  fun_induction splitQuoted mark cs with
  | case1 => exact ⟨rfl, .inl rfl⟩
  | case2 cs =>
    rw [Text.withReturns_break, splitQuoted_plain mark (by decide) (by decide),
      if_neg (Ne.symm hmark)]
    exact ⟨rfl, .inr ⟨cs, rfl, rfl⟩⟩
  | case3 => exact ⟨rfl, .inl rfl⟩
  | case4 c cs body closed rest hsplit ih =>
    rw [hsplit] at ih
    rw [Text.withReturns_cons (by decide), Text.withReturns_cons (ne_break_of_not_escaped h),
      splitQuoted_escaped]
    exact ih (not_escaped_tail (not_escaped_tail h))
  | case5 cs hbreak hlone hescape =>
    have hplain : mark ≠ '\\' := by cases cs <;> grind
    rw [Text.withReturns_cons hbreak, splitQuoted_plain mark hplain hbreak, if_pos rfl]
    exact ⟨rfl, .inl rfl⟩
  | case6 c cs hbreak hlone hescape hend body closed rest hsplit ih =>
    have hplain : c ≠ '\\' := by cases cs <;> grind
    rw [hsplit] at ih
    rw [Text.withReturns_cons hbreak, splitQuoted_plain mark hplain hbreak, if_neg hend]
    exact ih (not_escaped_tail h)

theorem takeWhile_dropWhile_line {line : List Char} (h : '\n' ∉ line) (more : List Char) :
    (line ++ '\n' :: more).takeWhile (· ≠ '\n') = line ∧
      (line ++ '\n' :: more).dropWhile (· ≠ '\n') = '\n' :: more := by
  refine Text.takeWhile_dropWhile_iff.2 ⟨rfl, ?_, by simp⟩
  intro c hmem
  exact decide_eq_true fun hc => h (hc ▸ hmem)

/-- A line comment takes in the return at the end of its line. -/
theorem returned_lineComment (cs : List Char) :
    Returned (.lineComment (cs.takeWhile (· ≠ '\n')), cs.dropWhile (· ≠ '\n'))
      (.lineComment ((withReturns cs).takeWhile (· ≠ '\n')),
        (withReturns cs).dropWhile (· ≠ '\n')) := by
  rcases Text.line_cases cs with hline | ⟨line, rest, hline, rfl⟩
  · rw [Text.withReturns_of_not_mem hline]
    refine ⟨.refl _, .inl (Text.withReturns_of_not_mem ?_).symm⟩
    exact fun hmem => hline ((List.dropWhile_suffix _).subset hmem)
  · have hcut : withReturns (line ++ '\n' :: rest) =
        (line ++ ['\r']) ++ '\n' :: withReturns rest := by
      simp [Text.withReturns_of_not_mem hline]
    have hline' : '\n' ∉ line ++ ['\r'] := by simpa using hline
    obtain ⟨htake, hdrop⟩ := takeWhile_dropWhile_line hline rest
    obtain ⟨htake', hdrop'⟩ := takeWhile_dropWhile_line hline' (withReturns rest)
    rw [hcut, htake, hdrop, htake', hdrop']
    refine ⟨⟨?_, fun _ => rfl, fun _ => rfl⟩, .inr ⟨rest, rfl, rfl⟩⟩
    intro state
    rw [State.comment?, State.comment?, Text.trim_append_blank (by decide)]

end Splitters

/-! ## The reader -/

theorem blockContent_withReturns (inner : List Char) :
    blockContent (withReturns inner) = blockContent inner := by
  have hreturn : ∀ line : List Char, Text.trim ((Text.trim (line ++ ['\r'])).dropWhile (· = '*')) =
      Text.trim ((Text.trim line).dropWhile (· = '*')) := by
    intro line
    rw [Text.trim_append_blank (by decide)]
  rw [blockContent, blockContent, Text.map_lines_withReturns hreturn]

theorem returned_blockComment (inner rest : List Char) :
    Returned (.blockComment inner, rest)
      (.blockComment (withReturns inner), withReturns rest) := by
  refine ⟨⟨?_, fun _ => rfl, fun _ => rfl⟩, .inl rfl⟩
  intro state
  rw [State.comment?, State.comment?, blockContent_withReturns, Text.lineBreaks_withReturns]

namespace Lexeme

variable {c : Char} {cs : List Char}

theorem readTemplate_withReturns (h : ¬ ['\\', '\n'] <:+: c :: cs) :
    readTemplate c (withReturns cs) =
      ((readTemplate c cs).1, withReturns (readTemplate c cs).2) := by
  fun_cases readTemplate c cs with
  | case1 cs => rfl
  | case2 d cs => rw [Text.withReturns_cons (ne_break_of_not_escaped h)]; rfl
  | case3 => rfl
  | case4 cs => rfl
  | case5 c cs hinterpolation hescape hlone hclose =>
    rw [readTemplate.eq_5 c (withReturns cs) hclose]
    · intro ds hc
      exact not_cons_of_withReturns (by decide) (fun es => hinterpolation es hc) ds
    · intro d ds hc _
      cases cs with
      | nil => exact hlone hc rfl
      | cons e es => exact hescape e es hc rfl
    · intro hc hnil
      cases cs with
      | nil => exact hlone hc rfl
      | cons e es => exact hescape e es hc rfl

theorem readSlash?_withReturns (operandExpected : Bool) (h : ¬ ['\\', '\n'] <:+: cs) :
    Option.Rel Returned (readSlash? operandExpected cs)
      (readSlash? operandExpected (withReturns cs)) := by
  fun_cases readSlash? operandExpected cs with
  | case1 => exact .some (returned_lineComment _)
  | case2 =>
    rename_i cs
    rw [Text.withReturns_cons (by decide), readSlash?, splitAtBlockEnd_withReturns]
    cases splitAtBlockEnd cs with
    | none => exact .none
    | some pair => exact .some (returned_blockComment pair.1 pair.2)
  | case3 cs hline hblock body rest hregex =>
    have hregex' := splitRegexBody_withReturns false h
    rw [hregex] at hregex'
    rw [readSlash?.eq_3 _ _ _ (not_cons_of_withReturns (by decide) hline)
      (not_cons_of_withReturns (by decide) hblock) hregex',
      Text.takeWhile_withReturns (by decide) (by decide),
      Text.dropWhile_withReturns (by decide) (by decide)]
    exact .some (.same _ _)
  | case4 operandExpected cs hline hblock hregex =>
    rw [readSlash?.eq_4 _ _ (not_cons_of_withReturns (by decide) hline)
      (not_cons_of_withReturns (by decide) hblock)]
    · exact .some (.same _ _)
    · intro body rest hoperand hbody
      rw [splitRegexBody_withReturns false h] at hbody
      obtain ⟨⟨body', rest'⟩, hsplit, _⟩ := Option.map_eq_some_iff.1 hbody
      exact hregex body' rest' hoperand hsplit

theorem readCode?_withReturns (operandExpected : Bool) (h : ¬ ['\\', '\n'] <:+: c :: cs) :
    Option.Rel Returned (readCode? operandExpected c cs)
      (readCode? operandExpected c (withReturns cs)) := by
  have htail := not_escaped_tail h
  unfold readCode?
  split
  · exact readSlash?_withReturns operandExpected htail
  · split
    · rename_i hquote
      have hmark : c ≠ '\r' := by rintro rfl; simp at hquote
      obtain ⟨hclosed, hrest⟩ := splitQuoted_withReturns hmark htail
      refine .some ⟨⟨fun _ => rfl, fun _ => rfl, ?_⟩, hrest⟩
      intro state
      simp only [State.operandExpectedAfter, hclosed]
    · rw [Text.takeWhile_withReturns (by decide) (by decide),
        Text.dropWhile_withReturns (by decide) (by decide)]
      repeat' split
      all_goals exact .some (.same _ _)

/-- A lexeme is read with returns where one is read without them, and it has the same effect. -/
theorem read?_withReturns (state : State) (h : ¬ ['\\', '\n'] <:+: c :: cs) :
    Option.Rel Returned (read? state c cs) (read? state c (withReturns cs)) := by
  unfold read?
  split
  · rw [readTemplate_withReturns h]
    exact .some (.same _ _)
  · exact readCode?_withReturns state.operandExpected h

end Lexeme

/-! ## Scans -/

/-- A comment under its offset, moved by the returns in front of it. -/
def moved (source : List Char) (entry : Nat × Comment) : Nat × Comment :=
  (entry.1 + Text.lineBreaksBefore entry.1 source, entry.2)

/-- The state with the place behind a text. -/
def State.standing (state : State) (before : List Char) : State :=
  { state with position := Position.advance {} before }

namespace State

theorem comment?_congr {state other : State} (hline : other.position.line = state.position.line)
    (lexeme : Lexeme) : other.comment? lexeme = state.comment? lexeme := by
  cases lexeme <;> simp [comment?, hline]

theorem framesAfter_congr {state other : State}
    (hline : other.position.line = state.position.line) (hframes : other.frames = state.frames)
    (lexeme : Lexeme) :
    other.framesAfter lexeme = state.framesAfter lexeme := by
  cases lexeme <;> simp [framesAfter, hframes, hline]

theorem operandExpectedAfter_congr {state other : State}
    (h : other.operandExpected = state.operandExpected) (lexeme : Lexeme) :
    other.operandExpectedAfter lexeme = state.operandExpectedAfter lexeme := by
  cases lexeme <;> simp [operandExpectedAfter, h]

end State

section Place

variable {state : State} {before : List Char}

/-- Returns in front of a place do not change its line. -/
theorem line_standing_withReturns (hplace : state.position = Position.advance {} before) :
    (state.standing (withReturns before)).position.line = state.position.line := by
  simp [State.standing, Position.advance, hplace]

/-- Returns in front of a place move it by a byte each. -/
theorem offset_standing_withReturns (hplace : state.position = Position.advance {} before)
    (rest : List Char) :
    (state.standing (withReturns before)).position.offset =
      state.position.offset + Text.lineBreaksBefore state.position.offset (before ++ rest) := by
  simp [State.standing, Position.advance, hplace, Text.lineBreaksBefore_append]

namespace Lexeme.SameEffect

variable {lexeme other : Lexeme}

/-- Behind the lexemes, the states differ in their place only. -/
theorem after (effect : lexeme.SameEffect other)
    (hplace : state.position = Position.advance {} before) :
    (state.standing (withReturns before)).after other =
      (state.after lexeme).standing (withReturns before ++ other.text) := by
  have hline := line_standing_withReturns hplace
  have hframes : (state.standing (withReturns before)).framesAfter other =
      state.framesAfter lexeme := by
    rw [effect.frames]
    exact State.framesAfter_congr hline rfl lexeme
  have hoperand : (state.standing (withReturns before)).operandExpectedAfter other =
      state.operandExpectedAfter lexeme := by
    rw [effect.operandExpected]
    exact State.operandExpectedAfter_congr rfl lexeme
  rw [State.after, hframes, hoperand]
  simp only [State.after, State.standing, Position.advance_append]

/-- The comment that is found is the same, under its new offset. -/
theorem found (effect : lexeme.SameEffect other)
    (hplace : state.position = Position.advance {} before) (rest : List Char) :
    (state.standing (withReturns before)).found other =
      (state.found lexeme).map (moved (before ++ rest)) := by
  rw [State.found, State.found, effect.comment,
    State.comment?_congr (line_standing_withReturns hplace),
    offset_standing_withReturns hplace rest]
  cases state.comment? lexeme <;> rfl

end Lexeme.SameEffect

/-- White space is stepped over. -/
theorem scanFrom_standing_blank (state : State) (before : List Char) {c : Char}
    (h : Text.isBlank c = true) (cs : List Char) :
    scanFrom (state.standing before) (c :: cs) = scanFrom (state.standing (before ++ [c])) cs := by
  obtain ⟨lexeme, hfound, hafter, hread⟩ := Lexeme.read?_blank (state.standing before) h
  have hbehind : (state.standing before).after lexeme = state.standing (before ++ [c]) := by
    rw [hafter]
    simp only [State.standing, Position.advance_append]
  rw [scanFrom_of_read (hread cs), hfound, hbehind]
  cases scanFrom (state.standing (before ++ [c])) cs <;> rfl

/-- A return that has been read already makes no difference. -/
theorem Resumes.scanFrom_eq {rest rest' : List Char} (resumes : Resumes rest rest') (state : State)
    {text text' : List Char} (h : text' ++ rest' = text ++ withReturns rest) :
    scanFrom (state.standing (before ++ text')) rest' =
      scanFrom (state.standing (before ++ text)) (withReturns rest) := by
  rcases resumes with rfl | ⟨later, rfl, rfl⟩
  · rw [List.append_cancel_right h]
  · have hreturn : text' ++ '\n' :: withReturns later =
        (text ++ ['\r']) ++ '\n' :: withReturns later := by simpa using h
    have htext := List.append_cancel_right hreturn
    rw [Text.withReturns_break, scanFrom_standing_blank state (before ++ text) (by decide), htext,
      List.append_assoc]

/-- Where a lexeme is read, the text with returns is scanned up to the same place, and the same is
found. A line break takes two steps, since the return in front of it is white space as well. -/
theorem scanFrom_withReturns_of_read (hplace : state.position = Position.advance {} before) {c : Char}
    {cs rest : List Char} {lexeme : Lexeme} (h : ¬ ['\\', '\n'] <:+: c :: cs)
    (hread : Lexeme.read? state c cs = some (lexeme, rest)) :
    scanFrom (state.standing (withReturns before)) (withReturns (c :: cs)) =
      (scanFrom ((state.after lexeme).standing (withReturns (before ++ lexeme.text)))
        (withReturns rest)).map ((state.found lexeme).map (moved (before ++ c :: cs)) ++ ·) := by
  by_cases hbreak : c = '\n'
  · subst hbreak
    obtain ⟨blank, hfound, hafter, hblank⟩ := Lexeme.read?_blank state (c := '\n') (by decide)
    obtain ⟨rfl, rfl⟩ : blank = lexeme ∧ cs = rest := by simpa [hblank cs] using hread
    have htext : blank.text ++ cs = ['\n'] ++ cs := Lexeme.read?_eq_some hread
    have hbehind : withReturns before ++ ['\r'] ++ ['\n'] = withReturns (before ++ blank.text) := by
      simp [List.append_cancel_right htext]
    have hstate : (state.after blank).standing (withReturns (before ++ blank.text)) =
        state.standing (withReturns (before ++ blank.text)) := by
      rw [hafter]
      rfl
    rw [Text.withReturns_break, scanFrom_standing_blank state _ (by decide),
      scanFrom_standing_blank state _ (by decide), hbehind, hfound, hstate]
    cases scanFrom (state.standing (withReturns (before ++ blank.text))) (withReturns cs) <;> rfl
  · have hboth := Lexeme.read?_withReturns state h
    generalize hread' : Lexeme.read? state c (withReturns cs) = read' at hboth
    rw [hread] at hboth
    cases hboth with
    | @some _ pair returned =>
      obtain ⟨other, rest'⟩ := pair
      obtain ⟨effect, resumes⟩ := returned
      have hother : Lexeme.read? (state.standing (withReturns before)) c (withReturns cs) =
          some (other, rest') := hread'
      have htexts : other.text ++ rest' = withReturns lexeme.text ++ withReturns rest := by
        rw [Lexeme.read?_eq_some hother, ← Text.withReturns_append, Lexeme.read?_eq_some hread,
          Text.withReturns_cons hbreak]
      rw [Text.withReturns_cons hbreak, scanFrom_of_read hother, effect.after hplace,
        resumes.scanFrom_eq _ htexts, ← Text.withReturns_append, effect.found hplace (c :: cs)]

end Place

/-- A scan with returns in the text finds the same under the new offsets, or fails in the same way.
-/
theorem scanFrom_withReturns {state : State} {before cs : List Char}
    (hplace : state.position = Position.advance {} before) (h : ¬ ['\\', '\n'] <:+: cs) :
    scanFrom (state.standing (withReturns before)) (withReturns cs) =
      (scanFrom state cs).map (List.map (moved (before ++ cs))) := by
  induction state, cs using scan_induction generalizing before with
  | nil state =>
    have hsame : scanFrom (state.standing (withReturns before)) [] = scanFrom state [] :=
      scanFrom_nil_congr rfl
    rw [Text.withReturns_nil, hsame, scanFrom_nil]
    cases state.openTemplateLine? <;> rfl
  | stuck state c cs hread =>
    obtain ⟨hcode, rfl, ds, rfl, hsplit⟩ := Lexeme.of_read?_eq_none hread
    have hcode' : (state.standing (withReturns before)).inTemplate = false := hcode
    have hread' : Lexeme.read? (state.standing (withReturns before)) '/'
        ('*' :: withReturns ds) = none := by
      rw [Lexeme.read?_blockComment hcode', splitAtBlockEnd_withReturns, hsplit]
      rfl
    rw [Text.withReturns_cons (by decide), Text.withReturns_cons (by decide),
      scanFrom_of_read_none hread, scanFrom_of_read_none hread', line_standing_withReturns hplace]
    rfl
  | step state c cs lexeme rest hread ih =>
    have htext := Lexeme.read?_eq_some hread
    have hrest : ¬ ['\\', '\n'] <:+: rest := by
      intro hescaped
      refine h (hescaped.trans ?_)
      rw [← htext]
      exact (List.suffix_append _ _).isInfix
    rw [scanFrom_withReturns_of_read hplace h hread, scanFrom_of_read hread,
      ih (State.position_after hplace lexeme) hrest, List.append_assoc, htext]
    cases scanFrom (state.after lexeme) rest with
    | error error => rfl
    | ok comments => simp [Except.map]

/-- Line endings do not matter to a scan. With a carriage return in front of every line break it fails
in the same way, or finds the same comments in the same order, each moved by a byte for every line
break in front of it. -/
theorem scanComments_withReturns {source : String} (h : ¬ ['\\', '\n'] <:+: source.toList) :
    (scanComments (String.ofList (withReturns source.toList))).map (·.toList) =
      (scanComments source).map fun map => map.toList.map (moved source.toList) := by
  have hstart : ({} : State).position = Position.advance {} [] := rfl
  have hscan : scanFrom {} (withReturns source.toList) =
      (scanFrom {} source.toList).map (List.map (moved source.toList)) :=
    scanFrom_withReturns hstart h
  rw [map_toList_scanComments, String.toList_ofList, hscan, ← map_toList_scanComments]
  cases scanComments source <;> rfl

-- A protected break does not end quoted text. With a return in front of it, it is not protected.
example :
    (scanComments "'\\\n//").toOption.map (·.toList) = some [] ∧
      (scanComments (String.ofList (withReturns "'\\\n//".toList))).toOption.map (·.toList) =
        some [(4, ⟨"", 2, 2⟩)] := by
  decide +kernel

/-- A line comment in an interpolation behind a stray quotation mark, a block comment over two lines,
and a line comment behind a slash that has no other on its line. -/
def brokenLines : String := "\x60a\n$\x7b'b\n// c\n\x7d\x60 /* d\n * e */ = /f\n//\tg"

/-- The comments of these lines. -/
def brokenLinesMap : CommentMap where
  toList := [(8, ⟨"c", 3, 3⟩), (16, ⟨"d\ne", 4, 5⟩), (34, ⟨"g", 6, 6⟩)]

theorem scanComments_withReturns_brokenLines :
    ¬ ['\\', '\n'] <:+: brokenLines.toList ∧
      scanComments brokenLines = .ok brokenLinesMap ∧
      (scanComments (String.ofList (withReturns brokenLines.toList))).map (·.toList) =
        .ok [(10, ⟨"c", 3, 3⟩), (19, ⟨"d\ne", 4, 5⟩), (39, ⟨"g", 6, 6⟩)] := by
  have hprotected : ¬ ['\\', '\n'] <:+: brokenLines.toList := by decide +kernel
  have hscan : scanComments brokenLines = .ok brokenLinesMap :=
    eq_ok_of_toOption (by decide +kernel)
  have hmoved : brokenLinesMap.toList.map (moved brokenLines.toList) =
      [(10, ⟨"c", 3, 3⟩), (19, ⟨"d\ne", 4, 5⟩), (39, ⟨"g", 6, 6⟩)] := by decide +kernel
  have hreturns := scanComments_withReturns hprotected
  rw [hscan] at hreturns
  exact ⟨hprotected, hscan, hreturns.trans (congrArg Except.ok hmoved)⟩

end WidgetPipeline.Script
