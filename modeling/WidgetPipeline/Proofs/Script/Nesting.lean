import WidgetPipeline.Script.State

/-!
# How constructs are nested

A template literal stands outside all others or in an interpolated expression, and an interpolated
expression stands in a template literal, so that the open constructs alternate. Each lexeme keeps it
so (`Alternating.after`), since only some can be read inside a template literal, and only others
outside one (`Lexeme.inLiteral_of_read?`). An expression stays open, with as many braces in it at
least, until a closing brace takes one back or, with none to take back, ends it
(`Lexeme.expression_after`). A template literal that is open was open before, inside the same
constructs, or a backquote has just opened it (`State.suffix_of_suffix_after`).
-/

namespace WidgetPipeline.Script

/-- Template literals and interpolated expressions by turns, innermost first. The outermost is a
template literal. -/
inductive Alternating : List Frame → Prop
  | none : Alternating []
  | outermost (line : Nat) : Alternating [.template line]
  | template (line : Nat) {depth : Nat} {outer : List Frame}
      (within : Alternating (.interpolation depth :: outer)) :
      Alternating (.template line :: .interpolation depth :: outer)
  | interpolation (depth : Nat) {line : Nat} {outer : List Frame}
      (within : Alternating (.template line :: outer)) :
      Alternating (.interpolation depth :: .template line :: outer)

/-- The innermost template literal of the open constructs was opened on the line, inside `outer`. An
expression may be open in it. -/
def Innermost (frames : List Frame) (line : Nat) (outer : List Frame) : Prop :=
  frames = .template line :: outer ∨
    ∃ depth, frames = .interpolation depth :: .template line :: outer

/-- The lexeme is a part of a template literal behind its opening. -/
def Lexeme.inLiteral : Lexeme → Bool
  | .closeTemplate | .openInterpolation | .templateText _ | .templateEscape _ => true
  | _ => false

/-- The parts of template literals are read inside of them, all other lexemes outside. -/
theorem Lexeme.inLiteral_of_read? {state : State} {c : Char} {cs rest : List Char}
    {lexeme : Lexeme} (h : read? state c cs = some (lexeme, rest)) :
    lexeme.inLiteral = state.inTemplate := by
  unfold read? at h
  split at h
  · rename_i hinside
    rw [hinside]
    unfold readTemplate at h
    split at h
    all_goals
      obtain ⟨rfl, rfl⟩ := Prod.mk.inj (Option.some.inj h)
      rfl
  · rename_i houtside
    rw [Bool.not_eq_true] at houtside
    rw [houtside]
    unfold readCode? readSlash? at h
    repeat' split at h
    all_goals grind [inLiteral, Option.map_eq_some_iff]

namespace State

variable {state : State}

theorem frames_of_inTemplate (h : state.inTemplate = true) :
    ∃ line outer, state.frames = .template line :: outer := by
  unfold inTemplate at h
  match hframes : state.frames, h with
  | .template line :: outer, _ => exact ⟨line, outer, rfl⟩

theorem frames_cases (h : state.inTemplate = false) :
    state.frames = [] ∨ ∃ depth frames, state.frames = .interpolation depth :: frames := by
  unfold inTemplate at h
  match hframes : state.frames, h with
  | [], _ => exact .inl rfl
  | .interpolation depth :: frames, _ => exact .inr ⟨depth, frames, rfl⟩

end State

/-! ## What a lexeme does to the open constructs -/

namespace Alternating

variable {frame : Frame} {frames : List Frame}

theorem tail (h : Alternating (frame :: frames)) : Alternating frames := by
  cases h with
  | outermost => exact .none
  | template _ within => exact within
  | interpolation _ within => exact within

/-- The braces in an expression do not matter. -/
theorem withDepth {depth : Nat} (h : Alternating (.interpolation depth :: frames)) (other : Nat) :
    Alternating (.interpolation other :: frames) := by
  cases h with
  | interpolation _ within => exact .interpolation other within

theorem afterOpenBrace (h : Alternating frames) :
    Alternating (State.framesAfterOpenBrace frames) := by
  match frames, h with
  | [], h => exact h
  | .template _ :: _, h => exact h
  | .interpolation depth :: _, h => exact h.withDepth (depth + 1)

theorem afterCloseBrace (h : Alternating frames) :
    Alternating (State.framesAfterCloseBrace frames) := by
  match frames, h with
  | [], h => exact h
  | .template _ :: _, h => exact h
  | .interpolation 0 :: _, h => exact h.tail
  | .interpolation (depth + 1) :: _, h => exact h.withDepth depth

/-- A lexeme opens a template literal outside of all others and an expression inside one, so that
the open constructs go on to alternate. -/
theorem after {state : State} {c : Char} {cs rest : List Char} {lexeme : Lexeme}
    (h : Alternating state.frames) (read : Lexeme.read? state c cs = some (lexeme, rest)) :
    Alternating (state.after lexeme).frames := by
  -- Whether the lexeme is read inside a literal tells what is on top of the constructs.
  have hplace := Lexeme.inLiteral_of_read? read
  cases lexeme with
  | openTemplate =>
    show Alternating (.template state.position.line :: state.frames)
    rcases State.frames_cases hplace.symm with hframes | ⟨depth, outer, hframes⟩
    · rw [hframes]
      exact .outermost _
    · rw [hframes] at h ⊢
      exact .template _ h
  | openInterpolation =>
    show Alternating (.interpolation 0 :: state.frames)
    obtain ⟨line, outer, hframes⟩ := State.frames_of_inTemplate hplace.symm
    rw [hframes] at h ⊢
    exact .interpolation 0 h
  | closeTemplate =>
    show Alternating state.frames.tail
    obtain ⟨line, outer, hframes⟩ := State.frames_of_inTemplate hplace.symm
    rw [hframes] at h ⊢
    exact h.tail
  | openBrace => exact h.afterOpenBrace
  | closeBrace => exact h.afterCloseBrace
  | _ => exact h

/-- Where something is open, a template literal is open. -/
theorem exists_innermost (h : Alternating frames) (hne : frames ≠ []) :
    ∃ line outer, Innermost frames line outer := by
  cases h with
  | none => exact absurd rfl hne
  | outermost line => exact ⟨line, [], .inl rfl⟩
  | template line _ => exact ⟨line, _, .inl rfl⟩
  | interpolation depth _ => exact ⟨_, _, .inr ⟨depth, rfl⟩⟩

end Alternating

/-- An expression with braces open in it loses one of them to a closing brace, and an expression
without is ended by it. Any other lexeme leaves the expression open with as many braces at least. -/
theorem Lexeme.expression_after {state : State} {c : Char} {cs rest : List Char} {lexeme : Lexeme}
    (read : read? state c cs = some (lexeme, rest)) {depth : Nat} {outer : List Frame}
    (hframes : state.frames = .interpolation depth :: outer) :
    (lexeme = .closeBrace ∧ depth = 0 ∧ (state.after lexeme).frames = outer) ∨
      (lexeme = .closeBrace ∧ 1 ≤ depth ∧
        (state.after lexeme).frames = .interpolation (depth - 1) :: outer) ∨
      (lexeme ≠ .closeBrace ∧ ∃ opened more, (state.after lexeme).frames =
        opened ++ .interpolation (depth + more) :: outer) := by
  have hplace := inLiteral_of_read? read
  have hcode : state.inTemplate = false := by rw [State.inTemplate, hframes]
  rw [hcode] at hplace
  cases lexeme with
  | closeBrace =>
    have hafter : (state.after .closeBrace).frames =
        State.framesAfterCloseBrace (.interpolation depth :: outer) := by
      rw [← hframes]
      rfl
    cases depth with
    | zero => exact .inl ⟨rfl, rfl, hafter⟩
    | succ depth => exact .inr (.inl ⟨rfl, Nat.le_add_left 1 depth, hafter⟩)
  | openTemplate =>
    exact .inr (.inr ⟨by simp, [.template state.position.line], 0, by
      simp [State.after, State.framesAfter, hframes]⟩)
  | openBrace =>
    exact .inr (.inr ⟨by simp, [], 1, by
      simp [State.after, State.framesAfter, State.framesAfterOpenBrace, hframes]⟩)
  | closeTemplate | openInterpolation => cases hplace
  | _ => exact .inr (.inr ⟨by simp, [], 0, by simp [State.after, State.framesAfter, hframes]⟩)

namespace State

variable {state : State} {line : Nat} {outer frames : List Frame}

theorem suffix_of_suffix_framesAfterOpenBrace
    (h : .template line :: outer <:+ framesAfterOpenBrace frames) :
    .template line :: outer <:+ frames := by
  match frames, h with
  | [], h => exact h
  | .template _ :: _, h => exact h
  | .interpolation _ :: _, h =>
    rcases List.suffix_cons_iff.1 h with heq | h
    · cases heq
    · exact List.suffix_cons_iff.2 (.inr h)

theorem suffix_of_suffix_framesAfterCloseBrace
    (h : .template line :: outer <:+ framesAfterCloseBrace frames) :
    .template line :: outer <:+ frames := by
  match frames, h with
  | [], h => exact h
  | .template _ :: _, h => exact h
  | .interpolation 0 :: _, h => exact List.suffix_cons_iff.2 (.inr h)
  | .interpolation (_ + 1) :: _, h =>
    rcases List.suffix_cons_iff.1 h with heq | h
    · cases heq
    · exact List.suffix_cons_iff.2 (.inr h)

/-- A template literal that is open behind a lexeme was open in front of it, or is opened by it. -/
theorem suffix_of_suffix_after {lexeme : Lexeme}
    (h : .template line :: outer <:+ (state.after lexeme).frames) :
    .template line :: outer <:+ state.frames ∨
      lexeme = .openTemplate ∧ state.position.line = line ∧ state.frames = outer := by
  cases lexeme with
  | openTemplate =>
    rcases List.suffix_cons_iff.1 h with heq | h
    · cases heq
      exact .inr ⟨rfl, rfl, rfl⟩
    · exact .inl h
  | closeTemplate => exact .inl (h.trans (List.tail_suffix _))
  | openInterpolation =>
    rcases List.suffix_cons_iff.1 h with heq | h
    · cases heq
    · exact .inl h
  | openBrace => exact .inl (suffix_of_suffix_framesAfterOpenBrace h)
  | closeBrace => exact .inl (suffix_of_suffix_framesAfterCloseBrace h)
  | _ => exact .inl h

end State

namespace Innermost

variable {state : State} {line : Nat} {outer frames : List Frame}

theorem suffix (h : Innermost frames line outer) : .template line :: outer <:+ frames := by
  rcases h with rfl | ⟨depth, rfl⟩
  · exact List.suffix_rfl
  · exact List.suffix_cons _ _

theorem openTemplateLine?_eq (h : Innermost state.frames line outer) :
    state.openTemplateLine? = some line := by
  rcases h with h | ⟨depth, h⟩
  · rw [State.openTemplateLine?, h]
    rfl
  · rw [State.openTemplateLine?, h]
    rfl

end Innermost

end WidgetPipeline.Script
