import WidgetPipeline.Proofs.Script.LineBreak
import WidgetPipeline.Proofs.Script.Nesting
import WidgetPipeline.Proofs.Script.Span

/-!
# Scans that fail

A scan fails at a block comment that has no end (`scanFrom_unclosedBlockComment`), or at the end of a
text that leaves a template literal open (`scanFrom_unclosedLiteral`). A literal that is open was
opened by a backquote on the line that is reported, and only another backquote closes it
(`Steps.openedIn`, `Steps.inLiteral`). So lines behind a source cannot cure its failure unless they
hold the delimiter that is missing (`scanComments_unclosed`).
-/

namespace WidgetPipeline.Script

open Text (lineBreaks)

/-! ## Open template literals -/

namespace State

variable {state : State} {line : Nat} {frames : List Frame}

/-- Some template literal is open. -/
def InLiteral (state : State) : Prop := ∃ line, .template line ∈ state.frames

/-- Each template literal that is open was opened by a backquote of the source, on its line. -/
def OpenedIn (source : List Char) (state : State) : Prop :=
  ∀ line, .template line ∈ state.frames →
    ∃ before after, source = before ++ '\x60' :: after ∧ line = 1 + lineBreaks before

/-- The line that is reported is that of an open template literal. -/
theorem template_mem_of_openTemplateLine? (h : state.openTemplateLine? = some line) :
    .template line ∈ state.frames := by
  obtain ⟨frame, hmem, hframe⟩ := List.exists_of_findSome?_eq_some h
  cases frame with
  | template other =>
    obtain rfl : other = line := by simpa using hframe
    exact hmem
  | interpolation depth => simp at hframe

theorem not_inLiteral_of_openTemplateLine? (h : state.openTemplateLine? = none) :
    ¬ state.InLiteral := by
  rintro ⟨line, hmem⟩
  have hframe := List.findSome?_eq_none_iff.1 h _ hmem
  simp at hframe

@[simp] theorem template_mem_framesAfterOpenBrace :
    .template line ∈ framesAfterOpenBrace frames ↔ .template line ∈ frames := by
  match frames with
  | [] => rfl
  | .template _ :: _ => rfl
  | .interpolation _ :: _ => simp [framesAfterOpenBrace]

@[simp] theorem template_mem_framesAfterCloseBrace :
    .template line ∈ framesAfterCloseBrace frames ↔ .template line ∈ frames := by
  match frames with
  | [] => rfl
  | .template _ :: _ => rfl
  | .interpolation 0 :: _ => simp [framesAfterCloseBrace]
  | .interpolation (_ + 1) :: _ => simp [framesAfterCloseBrace]

/-- Only a backquote closes a template literal. -/
theorem InLiteral.after (h : state.InLiteral) {lexeme : Lexeme} (hopen : '\x60' ∉ lexeme.text) :
    (state.after lexeme).InLiteral := by
  obtain ⟨line, hmem⟩ := h
  refine ⟨line, ?_⟩
  cases lexeme with
  | closeTemplate => simp [Lexeme.text] at hopen
  | _ => simp [State.after, framesAfter, hmem]

/-- Only a backquote opens a template literal. -/
theorem template_mem_after {lexeme : Lexeme} (h : .template line ∈ (state.after lexeme).frames) :
    .template line ∈ state.frames ∨ lexeme = .openTemplate ∧ line = state.position.line := by
  obtain ⟨inner, outer, hcut⟩ := List.append_of_mem h
  rcases suffix_of_suffix_after ⟨inner, hcut.symm⟩ with hsuffix | ⟨rfl, hline, -⟩
  · exact .inl (hsuffix.subset List.mem_cons_self)
  · exact .inr ⟨rfl, hline.symm⟩

end State

namespace Steps

variable {state final : State} {cs left : List Char} {found : List (Nat × Comment)}

/-- Without a backquote an open template literal stays open. -/
theorem inLiteral (steps : Steps state cs found final left) (hopen : state.InLiteral)
    (hcs : '\x60' ∉ cs) : final.InLiteral := by
  induction steps with
  | refl => exact hopen
  | step read _ ih =>
    rw [← Lexeme.read?_eq_some read, List.mem_append, not_or] at hcs
    exact ih (hopen.after hcs.1) hcs.2

/-- The steps open template literals at backquotes of the source. -/
theorem openedIn {source before : List Char} (steps : Steps state cs found final left)
    (hsource : source = before ++ cs) (hposition : state.position = Position.advance {} before)
    (hopened : state.OpenedIn source) : final.OpenedIn source := by
  induction steps generalizing before with
  | refl => exact hopened
  | @step state final c cs rest left lexeme comments read _ ih =>
    have htext := Lexeme.read?_eq_some read
    refine ih (by rw [hsource, ← htext, List.append_assoc])
      (State.position_after hposition lexeme) ?_
    intro line hmem
    rcases State.template_mem_after hmem with hbefore | ⟨rfl, rfl⟩
    · exact hopened line hbefore
    · refine ⟨before, rest, ?_, by rw [hposition]; rfl⟩
      rw [hsource, ← htext]
      rfl

end Steps

/-- A scan inside a template literal fails if no backquote follows. -/
theorem scanFrom_of_inLiteral {state : State} (hopen : state.InLiteral) {cs : List Char}
    (hcs : '\x60' ∉ cs) : ∃ error, scanFrom state cs = .error error := by
  cases hscan : scanFrom state cs with
  | error error => exact ⟨error, rfl⟩
  | ok comments =>
    obtain ⟨final, steps, hclosed⟩ := scanFrom_eq_ok_iff.1 hscan
    exact absurd (steps.inLiteral hopen hcs) (State.not_inLiteral_of_openTemplateLine? hclosed)

/-! ## The two failures -/

/-- A scan that fails at a block comment has come to one that has no end. It fails there whatever
follows behind a line break, unless that has an end of a block comment. -/
theorem scanFrom_unclosedBlockComment {source : List Char} {line : Nat}
    (h : scanFrom {} source = .error (.unclosedBlockComment line)) :
    (∃ before inner, source = before ++ '/' :: '*' :: inner ∧ line = 1 + lineBreaks before ∧
        splitAtBlockEnd inner = none) ∧
      ∀ more, splitAtBlockEnd more = none →
        scanFrom {} (source ++ '\n' :: more) = .error (.unclosedBlockComment line) := by
  obtain ⟨found, middle, left, upTo⟩ := exists_upToBreak {} source
  rw [upTo.steps.scanFrom_eq] at h
  rcases upTo.stops with hopens | hpasses
  · obtain rfl : middle.position.line = line := by simpa [hopens.scanFrom_eq, Except.map] using h
    constructor
    · obtain ⟨c, cs, rfl, hnone⟩ := hopens
      obtain ⟨_, rfl, inner, rfl, hendless⟩ := Lexeme.of_read?_eq_none hnone
      obtain ⟨before, hbefore, hmiddle⟩ := upTo.steps.exists_consumed
      exact ⟨before, inner, hbefore, by rw [hmiddle]; rfl, hendless⟩
    · intro more hmore
      rw [(upTo.continued more).scanFrom_eq, hopens.scanFrom_append_break hmore]
      rfl
  · rw [hpasses.ends, scanFrom_nil] at h
    cases hline : middle.openTemplateLine? <;> simp [hline, Except.map] at h

/-- A scan that fails at a literal has come to the end of the text inside a template literal, which a
backquote on the reported line opened. It fails whatever follows behind a line break, unless that has
a backquote. -/
theorem scanFrom_unclosedLiteral {source : List Char} {kind : LiteralKind} {line : Nat}
    (h : scanFrom {} source = .error (.unclosedLiteral kind line)) :
    kind = .template ∧
      (∃ before after, source = before ++ '\x60' :: after ∧ line = 1 + lineBreaks before) ∧
      ∀ more, '\x60' ∉ more → ∃ error, scanFrom {} (source ++ '\n' :: more) = .error error := by
  obtain ⟨found, middle, left, upTo⟩ := exists_upToBreak {} source
  rw [upTo.steps.scanFrom_eq] at h
  rcases upTo.stops with hopens | hpasses
  · simp [hopens.scanFrom_eq, Except.map] at h
  · rw [hpasses.ends, scanFrom_nil] at h
    cases hline : middle.openTemplateLine? with
    | none => simp [hline, Except.map] at h
    | some other =>
      obtain ⟨rfl, rfl⟩ : LiteralKind.template = kind ∧ other = line := by
        simpa [hline, Except.map] using h
      have hmem := State.template_mem_of_openTemplateLine? hline
      refine ⟨rfl, ?_, ?_⟩
      · exact upTo.steps.openedIn (List.nil_append source).symm rfl (by simp [State.OpenedIn])
          other hmem
      · intro more hmore
        obtain ⟨next, later, hthrough, hframes, hlater⟩ := hpasses.through more
        have hopen : next.InLiteral := ⟨other, hframes ▸ hmem⟩
        obtain ⟨error, herror⟩ :=
          scanFrom_of_inLiteral hopen fun hquote => hmore (hlater.subset hquote)
        refine ⟨error, ?_⟩
        rw [((upTo.continued more).trans hthrough).scanFrom_eq, herror]
        rfl

/-- What a failed scan reports is there, and cannot be cured by lines that do not hold the delimiter
that is missing: a block comment with no end on its line, or a template literal opened by a backquote
on its line. -/
theorem scanComments_unclosed (source : String) :
    (∀ line, scanComments source = .error (.unclosedBlockComment line) →
      (∃ before inner, source.toList = before ++ '/' :: '*' :: inner ∧
        line = 1 + lineBreaks before ∧
        ∀ earlier later, inner ≠ earlier ++ '*' :: '/' :: later) ∧
      ∀ more : String, (∀ earlier later, more.toList ≠ earlier ++ '*' :: '/' :: later) →
        scanComments (source ++ "\n" ++ more) = .error (.unclosedBlockComment line)) ∧
    ∀ kind line, scanComments source = .error (.unclosedLiteral kind line) →
      kind = .template ∧
      (∃ before after, source.toList = before ++ '\x60' :: after ∧
        line = 1 + lineBreaks before) ∧
      ∀ more : String, '\x60' ∉ more.toList →
        ∃ error, scanComments (source ++ "\n" ++ more) = .error error := by
  have hlonger : ∀ more : String,
      (source ++ "\n" ++ more).toList = source.toList ++ '\n' :: more.toList := by
    intro more
    simp
  constructor
  · intro line h
    obtain ⟨⟨before, inner, hcut, hline, hendless⟩, hstays⟩ :=
      scanFrom_unclosedBlockComment (scanComments_eq_error_iff.1 h)
    refine ⟨⟨before, inner, hcut, hline, splitAtBlockEnd_eq_none_iff.1 hendless⟩, ?_⟩
    intro more hmore
    rw [scanComments_eq_error_iff, hlonger]
    exact hstays more.toList (splitAtBlockEnd_eq_none_iff.2 hmore)
  · intro kind line h
    obtain ⟨hkind, hopened, hstays⟩ :=
      scanFrom_unclosedLiteral (scanComments_eq_error_iff.1 h)
    refine ⟨hkind, hopened, ?_⟩
    intro more hmore
    obtain ⟨error, herror⟩ := hstays more.toList hmore
    exact ⟨error, by rw [scanComments_eq_error_iff, hlonger, herror]⟩

/-- A closed template literal, and a block comment that ends in the first half of a delimiter. -/
def openComment : String := "a = \x60/*\x60;\nb /* c *"

/-- An interpolation with quoted text that holds a backquote and ends in a backslash. -/
def openLiteral : String := "a;\nb = \x60c $\x7b 'd\x60\\"

theorem scanComments_unclosed_samples :
    scanComments openComment = .error (.unclosedBlockComment 2) ∧
      scanComments (openComment ++ "\n" ++ "/ \x60d") = .error (.unclosedBlockComment 2) ∧
      scanComments openLiteral = .error (.unclosedLiteral .template 2) ∧
      (∃ before after, openLiteral.toList = before ++ '\x60' :: after ∧
        2 = 1 + lineBreaks before) ∧
      ∃ error, scanComments (openLiteral ++ "\n" ++ "e' \x7d */ f") = .error error := by
  have hcomment : scanComments openComment = .error (.unclosedBlockComment 2) :=
    eq_error_of_error? (by decide +kernel)
  have hliteral : scanComments openLiteral = .error (.unclosedLiteral .template 2) :=
    eq_error_of_error? (by decide +kernel)
  have hendless : ∀ earlier later, "/ \x60d".toList ≠ earlier ++ '*' :: '/' :: later :=
    splitAtBlockEnd_eq_none_iff.1 (by decide)
  obtain ⟨_, hstays⟩ := (scanComments_unclosed openComment).1 2 hcomment
  obtain ⟨_, hopened, hstays'⟩ := (scanComments_unclosed openLiteral).2 _ 2 hliteral
  exact ⟨hcomment, hstays _ hendless, hliteral, hopened, hstays' _ (by simp)⟩

end WidgetPipeline.Script
