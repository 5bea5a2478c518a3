import WidgetPipeline.Proofs.Script.Steps
import WidgetPipeline.Proofs.Text.Lines

/-!
# Scans of a text in different places

Two states that expect the same and have the same constructs open read the same lexemes, wherever
they stand (`State.Alike.read?_eq`), and stay alike (`State.Alike.after`). The lines that a state
remembers, and those of the comments that are found, are related by a renumbering of lines.
-/

namespace WidgetPipeline

/-- The comment with its lines renumbered. -/
def Comment.renumber (renumber : Nat → Nat) (comment : Comment) : Comment where
  content := comment.content
  firstLine := renumber comment.firstLine
  lastLine := renumber comment.lastLine

namespace Script

/-- The frame with its line renumbered. -/
def Frame.renumber (renumber : Nat → Nat) : Frame → Frame
  | .template line => .template (renumber line)
  | .interpolation depth => .interpolation depth

/-- The states agree but for their places, and the lines of open constructs are renumbered. -/
structure State.Alike (renumber : Nat → Nat) (state other : State) : Prop where
  operandExpected : other.operandExpected = state.operandExpected
  frames : other.frames = state.frames.map (Frame.renumber renumber)

namespace State

variable {renumber : Nat → Nat} {state other : State}

theorem framesAfterOpenBrace_map (frames : List Frame) :
    framesAfterOpenBrace (frames.map (Frame.renumber renumber)) =
      (framesAfterOpenBrace frames).map (Frame.renumber renumber) := by
  match frames with
  | [] => rfl
  | .template line :: rest => rfl
  | .interpolation depth :: rest => rfl

theorem framesAfterCloseBrace_map (frames : List Frame) :
    framesAfterCloseBrace (frames.map (Frame.renumber renumber)) =
      (framesAfterCloseBrace frames).map (Frame.renumber renumber) := by
  match frames with
  | [] => rfl
  | .template line :: rest => rfl
  | .interpolation 0 :: rest => rfl
  | .interpolation (depth + 1) :: rest => rfl

namespace Alike

theorem inTemplate_eq (alike : state.Alike renumber other) :
    other.inTemplate = state.inTemplate := by
  rw [inTemplate, inTemplate, alike.frames]
  match state.frames with
  | [] => rfl
  | .template line :: rest => rfl
  | .interpolation depth :: rest => rfl

/-- What is read does not depend on the place. -/
theorem read?_eq (alike : state.Alike renumber other) (c : Char) (cs : List Char) :
    Lexeme.read? other c cs = Lexeme.read? state c cs := by
  rw [Lexeme.read?, Lexeme.read?, alike.inTemplate_eq, alike.operandExpected]

theorem after (alike : state.Alike renumber other) (lexeme : Lexeme)
    (line : other.position.line = renumber state.position.line) :
    (state.after lexeme).Alike renumber (other.after lexeme) := by
  constructor
  · cases lexeme <;> simp [State.after, operandExpectedAfter, alike.operandExpected]
  · cases lexeme with
    | openTemplate => simp [State.after, framesAfter, alike.frames, Frame.renumber, line]
    | closeTemplate => simp [State.after, framesAfter, alike.frames]
    | openInterpolation => simp [State.after, framesAfter, alike.frames, Frame.renumber]
    | openBrace => simp [State.after, framesAfter, alike.frames, framesAfterOpenBrace_map]
    | closeBrace => simp [State.after, framesAfter, alike.frames, framesAfterCloseBrace_map]
    | _ => simp [State.after, framesAfter, alike.frames]

theorem openTemplateLine?_eq (alike : state.Alike renumber other) :
    other.openTemplateLine? = state.openTemplateLine?.map renumber := by
  rw [openTemplateLine?, openTemplateLine?, alike.frames, List.findSome?_map]
  induction state.frames with
  | nil => rfl
  | cons frame frames ih => cases frame <;> simp [List.findSome?_cons, Frame.renumber, ih]

end Alike

/-- A comment on a single line is found under the number of that line. -/
theorem found_renumber {lexeme : Lexeme}
    (single : ∀ inner, lexeme = .blockComment inner → Text.lineBreaks inner = 0)
    (line : other.position.line = renumber state.position.line) :
    (other.found lexeme).map (·.2) =
      (state.found lexeme).map fun entry => entry.2.renumber renumber := by
  cases lexeme with
  | lineComment body => simp [found, comment?, Comment.renumber, line]
  | blockComment inner => simp [found, comment?, Comment.renumber, line, single inner rfl]
  | _ => rfl

end State

end Script

end WidgetPipeline
