import WidgetPipeline.Proofs.Script.Reading
import WidgetPipeline.Proofs.Script.Steps

/-!
# What a line break settles

The end of a line settles how all of the line is read (`read?_append_break`), with three exceptions:
a block comment may go on, and so may quoted text or an escape in a template literal whose last
character is a backslash (`cutOff`). So the steps of a scan in front of a line break do not depend on
what follows (`exists_upToBreak`), and at the end of a source a line break makes no difference
(`scanFrom_append_break`).
-/

namespace WidgetPipeline.Script

/-- The text ends in a backslash that protects a character still to come. -/
def endsInEscape : List Char → Bool
  | [] => false
  | ['\\'] => true
  | '\\' :: _ :: cs => endsInEscape cs
  | _ :: cs => endsInEscape cs

/-- The lexeme ends in the middle of an escape, so that it may go on behind a line break. -/
def Lexeme.cutOff : Lexeme → Bool
  | .quoted _ body closed => !closed && endsInEscape body
  | .templateEscape escaped => escaped.isNone
  | _ => false

/-! ## The splitters in front of a line break -/

theorem endsInEscape_plain {c : Char} (h : c ≠ '\\') (cs : List Char) :
    endsInEscape (c :: cs) = endsInEscape cs := by
  rw [endsInEscape.eq_4]
  all_goals grind

theorem takeWhile_append_break {p : Char → Bool} (hp : p '\n' = false) (cs more : List Char) :
    (cs ++ '\n' :: more).takeWhile p = cs.takeWhile p := by
  induction cs with
  | nil => simp [hp]
  | cons c cs ih =>
    rw [List.cons_append, List.takeWhile_cons, List.takeWhile_cons, ih]

theorem dropWhile_append_break {p : Char → Bool} (hp : p '\n' = false) (cs more : List Char) :
    (cs ++ '\n' :: more).dropWhile p = cs.dropWhile p ++ '\n' :: more := by
  induction cs with
  | nil => simp [hp]
  | cons c cs ih =>
    rw [List.cons_append, List.dropWhile_cons, List.dropWhile_cons]
    split
    · exact ih
    · rfl

/-- A line break behind a text does not change the character in front. -/
theorem not_cons_of_append_break {c : Char} (hbreak : c ≠ '\n') {cs more : List Char}
    (h : ∀ ds, cs = c :: ds → False) : ∀ ds, cs ++ '\n' :: more = c :: ds → False := by
  intro ds hcs
  cases cs with
  | nil => exact hbreak (List.cons.inj hcs).1.symm
  | cons d front => exact h front (by rw [← (List.cons.inj hcs).1])

theorem splitAtBlockEnd_append {cs inner rest : List Char}
    (h : splitAtBlockEnd cs = some (inner, rest)) (more : List Char) :
    splitAtBlockEnd (cs ++ more) = some (inner, rest ++ more) := by
  fun_induction splitAtBlockEnd cs generalizing inner with
  | case1 => simp at h
  | case2 rest' =>
    simp only [Option.some.injEq, Prod.mk.injEq] at h
    obtain ⟨rfl, rfl⟩ := h
    rfl
  | case3 c cs hopen ih =>
    obtain ⟨⟨inner', rest'⟩, hsplit, hpair⟩ := Option.map_eq_some_iff.1 h
    simp only [Prod.mk.injEq] at hpair
    obtain ⟨rfl, rfl⟩ := hpair
    have hopen' : ∀ rest, c = '*' → cs ++ more = '/' :: rest → False := by
      intro later hc hcs
      cases cs with
      | nil => simp [splitAtBlockEnd] at hsplit
      | cons d ds =>
        simp only [List.cons_append, List.cons.injEq] at hcs
        exact hopen ds hc (by rw [hcs.1])
    rw [List.cons_append, splitAtBlockEnd.eq_3 _ _ hopen', ih hsplit]
    rfl

/-- A delimiter cannot be split by a line break. -/
theorem splitAtBlockEnd_append_break {cs : List Char} (h : splitAtBlockEnd cs = none)
    (more : List Char) :
    splitAtBlockEnd (cs ++ '\n' :: more) =
      (splitAtBlockEnd more).map fun (inner, rest) => (cs ++ '\n' :: inner, rest) := by
  fun_induction splitAtBlockEnd cs with
  | case1 =>
    rw [List.nil_append, splitAtBlockEnd.eq_3]
    · rfl
    · simp
  | case2 rest' => simp at h
  | case3 c cs hopen ih =>
    have hopen' : ∀ rest, c = '*' → cs ++ '\n' :: more = '/' :: rest → False := by
      intro later hc
      exact not_cons_of_append_break (by decide) (fun ds => hopen ds hc) later
    rw [List.cons_append, splitAtBlockEnd.eq_3 _ _ hopen', ih (by simpa using h), Option.map_map]
    rfl

theorem splitRegexBody_append_break (inClass : Bool) (cs more : List Char) :
    splitRegexBody inClass (cs ++ '\n' :: more) =
      (splitRegexBody inClass cs).map fun (body, rest) => (body, rest ++ '\n' :: more) := by
  fun_induction splitRegexBody inClass cs with
  | case1 => rfl
  | case2 => rfl
  | case3 => rfl
  | case4 => rfl
  | case5 inClass c cs hbreak ih =>
    simp only [List.cons_append]
    rw [splitRegexBody_escaped inClass hbreak, ih, Option.map_map, Option.map_map]
    rfl
  | case6 inClass cs ih =>
    simp only [List.cons_append, splitRegexBody.eq_6]
    rw [ih, Option.map_map, Option.map_map]
    rfl
  | case7 inClass cs ih =>
    simp only [List.cons_append, splitRegexBody.eq_7]
    rw [ih, Option.map_map, Option.map_map]
    rfl
  | case8 inClass c cs hbreak hlone hprotected hescape hopen hclose hend =>
    have hplain : c ≠ '\\' := by cases cs <;> grind
    rw [List.cons_append, splitRegexBody_plain inClass hplain hbreak hopen hclose, if_pos hend]
    rfl
  | case9 inClass c cs hbreak hlone hprotected hescape hopen hclose hend ih =>
    have hplain : c ≠ '\\' := by cases cs <;> grind
    rw [List.cons_append, splitRegexBody_plain inClass hplain hbreak hopen hclose, if_neg hend, ih,
      Option.map_map, Option.map_map]
    rfl

theorem splitQuoted_append_break {mark : Char} {cs : List Char}
    (h : (splitQuoted mark cs).2.1 = true ∨ endsInEscape (splitQuoted mark cs).1 = false)
    (more : List Char) :
    splitQuoted mark (cs ++ '\n' :: more) =
      ((splitQuoted mark cs).1, (splitQuoted mark cs).2.1,
        (splitQuoted mark cs).2.2 ++ '\n' :: more) := by
  fun_induction splitQuoted mark cs with
  | case1 => rfl
  | case2 => rfl
  | case3 => simp [endsInEscape] at h
  | case4 c cs body closed rest hsplit ih =>
    simp only [hsplit, endsInEscape] at ih h
    simp only [List.cons_append]
    rw [splitQuoted_escaped, ih h]
  | case5 cs hbreak hlone hescape =>
    have hplain : mark ≠ '\\' := by cases cs <;> grind
    rw [List.cons_append, splitQuoted_plain mark hplain hbreak, if_pos rfl]
  | case6 c cs hbreak hlone hescape hmark body closed rest hsplit ih =>
    have hplain : c ≠ '\\' := by cases cs <;> grind
    simp only [hsplit, endsInEscape_plain hplain] at ih h
    rw [List.cons_append, splitQuoted_plain mark hplain hbreak, if_neg hmark, ih h]

/-- Quoted text that ends in a backslash runs to the end of the text and past a line break. -/
theorem splitQuoted_of_endsInEscape {mark : Char} {cs : List Char}
    (hopen : (splitQuoted mark cs).2.1 = false)
    (hescape : endsInEscape (splitQuoted mark cs).1 = true) :
    splitQuoted mark cs = (cs, false, []) ∧ (∃ front, cs = front ++ ['\\']) ∧
      ∀ more, splitQuoted mark (cs ++ '\n' :: more) =
        (cs ++ '\n' :: (splitQuoted mark more).1, (splitQuoted mark more).2) := by
  fun_induction splitQuoted mark cs with
  | case1 => simp [endsInEscape] at hescape
  | case2 => simp [endsInEscape] at hescape
  | case3 => exact ⟨rfl, ⟨[], rfl⟩, fun _ => rfl⟩
  | case4 c cs body closed rest hsplit ih =>
    simp only [hsplit, endsInEscape] at ih hopen hescape
    obtain ⟨hall, ⟨front, hfront⟩, hwhole⟩ := ih hopen hescape
    simp only [Prod.mk.injEq] at hall
    refine ⟨by simp [hall], ⟨'\\' :: c :: front, by rw [hfront]; rfl⟩, ?_⟩
    intro more
    rw [List.cons_append, List.cons_append, splitQuoted_escaped, hwhole]
    rfl
  | case5 => simp at hopen
  | case6 c cs hbreak hlone hprotected hmark body closed rest hsplit ih =>
    have hplain : c ≠ '\\' := by cases cs <;> grind
    simp only [hsplit, endsInEscape_plain hplain] at ih hopen hescape
    obtain ⟨hall, ⟨front, hfront⟩, hwhole⟩ := ih hopen hescape
    simp only [Prod.mk.injEq] at hall
    refine ⟨by simp [hall], ⟨c :: front, by rw [hfront]; rfl⟩, ?_⟩
    intro more
    rw [List.cons_append, splitQuoted_plain mark hplain hbreak, if_neg hmark, hwhole]
    rfl

/-! ## The reader in front of a line break -/

namespace Lexeme

variable {state : State} {c : Char} {cs rest : List Char} {lexeme : Lexeme}

theorem readTemplate_append_break (hwhole : (readTemplate c cs).1.cutOff = false)
    (more : List Char) :
    readTemplate c (cs ++ '\n' :: more) =
      ((readTemplate c cs).1, (readTemplate c cs).2 ++ '\n' :: more) := by
  fun_cases readTemplate c cs with
  | case1 cs => rfl
  | case2 d cs => rfl
  | case3 => simp [readTemplate, cutOff] at hwhole
  | case4 cs => rfl
  | case5 c cs hinterpolation hescape hlone hclose =>
    rw [readTemplate.eq_5 c (cs ++ '\n' :: more)]
    · exact hclose
    · intro ds hc
      exact not_cons_of_append_break (by decide) (fun es => hinterpolation es hc) ds
    · intro d ds hc _
      cases cs with
      | nil => exact hlone hc rfl
      | cons e es => exact hescape e es hc rfl
    · simp

theorem readSlash?_append_break {operandExpected : Bool}
    (h : readSlash? operandExpected cs = some (lexeme, rest)) (more : List Char) :
    readSlash? operandExpected (cs ++ '\n' :: more) = some (lexeme, rest ++ '\n' :: more) := by
  fun_cases readSlash? operandExpected cs with
  | case1 cs =>
    simp only [readSlash?, Option.some.injEq, Prod.mk.injEq] at h
    obtain ⟨rfl, rfl⟩ := h
    have hbreak : decide ('\n' ≠ '\n') = false := by decide
    rw [List.cons_append, readSlash?, takeWhile_append_break hbreak, dropWhile_append_break hbreak]
  | case2 cs =>
    simp only [readSlash?, Option.map_eq_some_iff, Prod.exists, Prod.mk.injEq] at h
    obtain ⟨inner, rest', hsplit, rfl, rfl⟩ := h
    rw [List.cons_append, readSlash?, splitAtBlockEnd_append hsplit]
    rfl
  | case3 cs hline hblock body rest' hregex =>
    rw [readSlash?.eq_3 cs body rest' hline hblock hregex] at h
    simp only [Option.some.injEq, Prod.mk.injEq] at h
    obtain ⟨rfl, rfl⟩ := h
    have hregex' := splitRegexBody_append_break false cs more
    rw [hregex] at hregex'
    rw [readSlash?.eq_3 _ _ _ (not_cons_of_append_break (by decide) hline)
      (not_cons_of_append_break (by decide) hblock) hregex']
    rw [takeWhile_append_break (by decide), dropWhile_append_break (by decide)]
  | case4 operandExpected cs hline hblock hregex =>
    rw [readSlash?.eq_4 cs operandExpected hline hblock hregex] at h
    simp only [Option.some.injEq, Prod.mk.injEq] at h
    obtain ⟨rfl, rfl⟩ := h
    rw [readSlash?.eq_4 _ _ (not_cons_of_append_break (by decide) hline)
      (not_cons_of_append_break (by decide) hblock)]
    intro body rest' hoperand hbody
    rw [splitRegexBody_append_break] at hbody
    obtain ⟨⟨body', rest''⟩, hsplit, _⟩ := Option.map_eq_some_iff.1 hbody
    exact hregex body' rest'' hoperand hsplit

theorem readCode?_append_break {operandExpected : Bool}
    (h : readCode? operandExpected c cs = some (lexeme, rest)) (hwhole : lexeme.cutOff = false)
    (more : List Char) :
    readCode? operandExpected c (cs ++ '\n' :: more) = some (lexeme, rest ++ '\n' :: more) := by
  unfold readCode? at h ⊢
  split at h
  · rename_i hslash
    rw [if_pos hslash]
    exact readSlash?_append_break h more
  · rename_i hslash
    rw [if_neg hslash]
    split at h
    · rename_i hquote
      simp only [Option.some.injEq, Prod.mk.injEq] at h
      obtain ⟨rfl, rfl⟩ := h
      have hclosed : (splitQuoted c cs).2.1 = true ∨
          endsInEscape (splitQuoted c cs).1 = false := by
        cases hc : (splitQuoted c cs).2.1 <;> simp_all [cutOff]
      rw [if_pos hquote, splitQuoted_append_break hclosed]
    · rename_i hquote
      rw [if_neg hquote]
      have hbreak : isIdentPart '\n' = false := by decide
      rw [takeWhile_append_break hbreak, dropWhile_append_break hbreak]
      grind

/-- What is read in front of a line break does not depend on what follows it. -/
theorem read?_append_break (h : read? state c cs = some (lexeme, rest))
    (hwhole : lexeme.cutOff = false) (more : List Char) :
    read? state c (cs ++ '\n' :: more) = some (lexeme, rest ++ '\n' :: more) := by
  unfold read? at h ⊢
  split at h
  · rename_i htemplate
    obtain ⟨rfl, rfl⟩ : (readTemplate c cs).1 = lexeme ∧ (readTemplate c cs).2 = rest := by
      simpa [Prod.ext_iff] using h
    rw [if_pos htemplate, readTemplate_append_break hwhole]
  · rename_i hcode
    rw [if_neg hcode, readCode?_append_break h hwhole]

theorem of_read?_quoted {mark : Char} {body : List Char} {closed : Bool}
    (h : read? state c cs = some (.quoted mark body closed, rest)) :
    state.inTemplate = false ∧ c = mark ∧ (mark = '"' ∨ mark = '\'') ∧
      splitQuoted mark cs = (body, closed, rest) := by
  unfold read? readCode? readSlash? readTemplate at h
  split at h
  · split at h <;> simp at h
  · rename_i hcode
    repeat' split at h
    all_goals simp only [Option.some.injEq, Prod.mk.injEq, reduceCtorEq, false_and,
      Option.map_eq_some_iff, and_false, exists_false, quoted.injEq] at h
    obtain ⟨⟨rfl, rfl, rfl⟩, rfl⟩ := h
    exact ⟨by simpa using hcode, rfl, ‹_›, by simp_all⟩

theorem of_read?_templateEscape_none (h : read? state c cs = some (.templateEscape none, rest)) :
    state.inTemplate = true ∧ c = '\\' ∧ cs = [] ∧ rest = [] := by
  unfold read? readCode? readSlash? readTemplate at h
  split at h
  · rename_i htemplate
    split at h
    all_goals simp only [Option.some.injEq, Prod.mk.injEq, reduceCtorEq, false_and,
      templateEscape.injEq, true_and] at h
    exact ⟨htemplate, rfl, rfl, h.symm⟩
  · repeat' split at h
    all_goals simp at h

/-- A lexeme that is cut off ends the text with a backslash, and nothing but the place changes. A line
break behind it is taken into the lexeme, with some of what follows the break, and again nothing else
changes. -/
theorem of_cutOff (h : read? state c cs = some (lexeme, rest)) (hcut : lexeme.cutOff = true) :
    rest = [] ∧ (∃ front, c :: cs = front ++ ['\\']) ∧ state.found lexeme = [] ∧
      (state.after lexeme).frames = state.frames ∧
      ∀ more, ∃ longer later, read? state c (cs ++ '\n' :: more) = some (longer, later) ∧
        later <:+ more ∧ state.found longer = [] ∧
        (state.after longer).frames = state.frames := by
  cases lexeme with
  | quoted mark body closed =>
    obtain ⟨hcode, rfl, hmark, hsplit⟩ := of_read?_quoted h
    simp only [cutOff, Bool.and_eq_true, Bool.not_eq_true'] at hcut
    obtain ⟨rfl, hescape⟩ := hcut
    obtain ⟨hall, ⟨front, hfront⟩, hwhole⟩ :=
      splitQuoted_of_endsInEscape (by rw [hsplit]) (by rw [hsplit]; exact hescape)
    simp only [hsplit, Prod.mk.injEq] at hall
    refine ⟨hall.2.2, ⟨c :: front, by rw [hfront]; rfl⟩, rfl, rfl, ?_⟩
    intro more
    have hslash : c ≠ '/' := by rintro rfl; simp at hmark
    have hread : read? state c (cs ++ '\n' :: more) =
        some (.quoted c (cs ++ '\n' :: (splitQuoted c more).1) (splitQuoted c more).2.1,
          (splitQuoted c more).2.2) := by
      simp [read?, hcode, readCode?, hslash, hmark, hwhole]
    exact ⟨_, _, hread, ⟨_, splitQuoted_append c more⟩, rfl, rfl⟩
  | templateEscape escaped =>
    obtain rfl : escaped = none := by simpa [cutOff] using hcut
    obtain ⟨htemplate, rfl, rfl, rfl⟩ := of_read?_templateEscape_none h
    refine ⟨rfl, ⟨[], rfl⟩, rfl, rfl, ?_⟩
    intro more
    refine ⟨.templateEscape (some '\n'), more, ?_, List.suffix_rfl, rfl, rfl⟩
    simp [read?, htemplate, readTemplate]
  | _ => simp [cutOff] at hcut

/-- White space is read alone, and it only moves the position. -/
theorem read?_blank (state : State) {c : Char} (hblank : Text.isBlank c = true) :
    ∃ lexeme, state.found lexeme = [] ∧
      state.after lexeme = { state with position := state.position.advance [c] } ∧
      ∀ cs, read? state c cs = some (lexeme, cs) := by
  cases htemplate : state.inTemplate with
  | true =>
    refine ⟨.templateText c, rfl, rfl, ?_⟩
    intro cs
    rw [read?, if_pos htemplate, readTemplate_blank hblank]
  | false =>
    refine ⟨.blank c, rfl, rfl, ?_⟩
    intro cs
    rw [read?, if_neg (by simp [htemplate]), readCode?_blank hblank]

/-- Where nothing can be read, a line break and what follows it can only complete the comment. -/
theorem read?_append_break_of_none (h : read? state c cs = none) (more : List Char) :
    read? state c (cs ++ '\n' :: more) =
      (splitAtBlockEnd more).map fun (inner, rest) =>
        (.blockComment (cs.tail ++ '\n' :: inner), rest) := by
  obtain ⟨hcode, rfl, ds, rfl, hsplit⟩ := of_read?_eq_none h
  rw [List.cons_append, read?_blockComment hcode, splitAtBlockEnd_append_break hsplit,
    Option.map_map]
  rfl

/-- The first lexeme of a line is read in the same way whatever follows the line, unless it is a
block comment or ends in an escape of the line break. -/
theorem read?_line {line tail : List Char} (ends : AtLineEnd tail)
    (h : read? state c (line ++ tail) = some (lexeme, rest)) :
    (∃ rest', lexeme.text ++ rest' = c :: line ∧ rest = rest' ++ tail ∧
      ∀ tail', AtLineEnd tail' → (tail = [] → tail' = []) →
        read? state c (line ++ tail') = some (lexeme, rest' ++ tail')) ∨
      ∃ more, tail = '\n' :: more ∧
        (read? state c line = none ∨ ∃ front, c :: line = front ++ ['\\']) := by
  rcases ends with rfl | ⟨more, rfl⟩
  · left
    rw [List.append_nil] at h
    refine ⟨rest, read?_eq_some h, (List.append_nil rest).symm, ?_⟩
    intro tail' _ hnil
    rw [hnil rfl, List.append_nil, List.append_nil, h]
  · cases hread : read? state c line with
    | none => exact .inr ⟨more, rfl, .inl rfl⟩
    | some pair =>
      obtain ⟨lexeme', rest'⟩ := pair
      cases hcut : lexeme'.cutOff with
      | true => exact .inr ⟨more, rfl, .inr (of_cutOff hread hcut).2.1⟩
      | false =>
        have hwhole := read?_append_break hread hcut
        rw [hwhole more] at h
        simp only [Option.some.injEq, Prod.mk.injEq] at h
        obtain ⟨rfl, rfl⟩ := h
        left
        refine ⟨rest', read?_eq_some hread, rfl, ?_⟩
        rintro tail' (rfl | ⟨more', rfl⟩) _
        · rw [List.append_nil, List.append_nil, hread]
        · exact hwhole more'

end Lexeme

/-! ## Scans in front of a line break -/

/-- What a scan finds at the end of a text depends on its open constructs only. -/
theorem scanFrom_nil_congr {state state' : State} (h : state.frames = state'.frames) :
    scanFrom state [] = scanFrom state' [] := by
  rw [scanFrom_nil, scanFrom_nil, State.openTemplateLine?, State.openTemplateLine?, h]

/-- Nothing can be read: the text is a block comment that has no end. -/
def OpensComment (state : State) (left : List Char) : Prop :=
  ∃ c cs, left = c :: cs ∧ Lexeme.read? state c cs = none

/-- The text, up to a line break behind it, changes nothing that a scan finds. The break is read with
it, and some of what follows the break. -/
structure PassesBreak (state : State) (left : List Char) : Prop where
  ends : scanFrom state left = scanFrom state []
  through : ∀ more, ∃ next later, Steps state (left ++ '\n' :: more) [] next later ∧
    next.frames = state.frames ∧ later <:+ more

/-- The steps of a scan of a text, which are the same where the text goes on behind a line break, and
what the last of them leaves in front of the break. -/
structure UpToBreak (state : State) (cs : List Char) (found : List (Nat × Comment))
    (middle : State) (left : List Char) : Prop where
  steps : Steps state cs found middle left
  continued : ∀ more, Steps state (cs ++ '\n' :: more) found middle (left ++ '\n' :: more)
  stops : OpensComment middle left ∨ PassesBreak middle left

theorem PassesBreak.nil (state : State) : PassesBreak state [] where
  ends := rfl
  through := by
    intro more
    obtain ⟨lexeme, hfound, hafter, hread⟩ := Lexeme.read?_blank state (c := '\n') (by decide)
    have hstep := Steps.one (hread more)
    rw [hfound] at hstep
    exact ⟨_, more, hstep, by rw [hafter], List.suffix_rfl⟩

theorem PassesBreak.of_cutOff {state : State} {c : Char} {cs rest : List Char} {lexeme : Lexeme}
    (hread : Lexeme.read? state c cs = some (lexeme, rest)) (hcut : lexeme.cutOff = true) :
    PassesBreak state (c :: cs) := by
  obtain ⟨rfl, _, hfound, hframes, hlonger⟩ := Lexeme.of_cutOff hread hcut
  constructor
  · rw [scanFrom_of_read hread, hfound, scanFrom_nil_congr hframes]
    cases scanFrom state [] <;> rfl
  · intro more
    obtain ⟨longer, later, hread', hlater, hfound', hframes'⟩ := hlonger more
    have hstep := Steps.one hread'
    rw [hfound'] at hstep
    exact ⟨_, later, hstep, hframes', hlater⟩

/-- A scan comes to the end of a text in steps that do not depend on what follows a line break there,
but for a last lexeme that may go on behind the break. -/
theorem exists_upToBreak (state : State) (cs : List Char) :
    ∃ found middle left, UpToBreak state cs found middle left := by
  have hstay : ∀ (state : State) (c : Char) (cs : List Char),
      OpensComment state (c :: cs) ∨ PassesBreak state (c :: cs) →
        ∃ found middle left, UpToBreak state (c :: cs) found middle left :=
    fun state c cs hstops => ⟨[], state, c :: cs, .refl _ _, fun _ => .refl _ _, hstops⟩
  induction state, cs using scan_induction with
  | nil state => exact ⟨[], state, [], .refl _ _, fun _ => .refl _ _, .inr (.nil state)⟩
  | stuck state c cs hread => exact hstay state c cs (.inl ⟨c, cs, rfl, hread⟩)
  | step state c cs lexeme rest hread ih =>
    cases hcut : lexeme.cutOff with
    | true => exact hstay state c cs (.inr (.of_cutOff hread hcut))
    | false =>
      obtain ⟨found, middle, left, h⟩ := ih
      refine ⟨_, middle, left, .step hread h.steps, ?_, h.stops⟩
      exact fun more => .step (Lexeme.read?_append_break hread hcut more) (h.continued more)

theorem OpensComment.scanFrom_eq {state : State} {left : List Char} (h : OpensComment state left) :
    scanFrom state left = .error (.unclosedBlockComment state.position.line) := by
  obtain ⟨c, cs, rfl, hread⟩ := h
  exact scanFrom_of_read_none hread

/-- A block comment that has no end goes on behind a line break. -/
theorem OpensComment.scanFrom_append_break {state : State} {left : List Char}
    (h : OpensComment state left) {more : List Char} (hmore : splitAtBlockEnd more = none) :
    scanFrom state (left ++ '\n' :: more) =
      .error (.unclosedBlockComment state.position.line) := by
  obtain ⟨c, cs, rfl, hread⟩ := h
  have hread' := Lexeme.read?_append_break_of_none hread more
  rw [hmore] at hread'
  exact scanFrom_of_read_none hread'

/-- A line break at the end of a source does not matter. -/
theorem scanFrom_append_break (state : State) (cs : List Char) :
    scanFrom state (cs ++ ['\n']) = scanFrom state cs := by
  obtain ⟨found, middle, left, h⟩ := exists_upToBreak state cs
  have hleft : scanFrom middle (left ++ ['\n']) = scanFrom middle left := by
    rcases h.stops with hopens | hpasses
    · rw [hopens.scanFrom_append_break rfl, hopens.scanFrom_eq]
    · obtain ⟨next, later, hsteps, hframes, hlater⟩ := hpasses.through []
      obtain rfl := List.suffix_nil.1 hlater
      rw [hsteps.scanFrom_eq, hpasses.ends, scanFrom_nil_congr hframes]
      cases scanFrom middle [] <;> rfl
  rw [(h.continued []).scanFrom_eq, hleft, h.steps.scanFrom_eq]

end WidgetPipeline.Script
