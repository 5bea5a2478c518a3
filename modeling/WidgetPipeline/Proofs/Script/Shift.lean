import WidgetPipeline.Proofs.Script.Renumbering
import WidgetPipeline.Proofs.Script.Rendering

/-!
# Scans that start further down

A text in front of a source moves what a scan of the source finds, and changes nothing else, if the
text leaves the scan as it was at the start: nothing open and an operand expected. Errors move with
the comments (`State.Shifted.scanFrom_eq`). The text of a fitting tree is such a text
(`Code.scanFrom_append`).
-/

namespace WidgetPipeline

/-- The error with its line renumbered. -/
def ScanError.renumber (renumber : Nat → Nat) : ScanError → ScanError
  | .unclosedBlockComment line => .unclosedBlockComment (renumber line)
  | .unclosedLiteral kind line => .unclosedLiteral kind (renumber line)

namespace Script

/-- A comment under its offset, some bytes and lines further down. -/
def shiftEntry (bytes lines : Nat) (entry : Nat × Comment) : Nat × Comment :=
  (entry.1 + bytes, entry.2.renumber (· + lines))

/-- The result of a scan, some bytes and lines further down. -/
def shiftResult (bytes lines : Nat) :
    Except ScanError (List (Nat × Comment)) → Except ScanError (List (Nat × Comment))
  | .ok comments => .ok (comments.map (shiftEntry bytes lines))
  | .error error => .error (error.renumber (· + lines))

/-- The other state is the state some bytes and lines further down. -/
structure State.Shifted (bytes lines : Nat) (state other : State) : Prop where
  alike : state.Alike (· + lines) other
  offset : other.position.offset = state.position.offset + bytes
  line : other.position.line = state.position.line + lines

namespace State.Shifted

variable {bytes lines : Nat} {state other : State}

theorem after (shifted : Shifted bytes lines state other) (lexeme : Lexeme) :
    Shifted bytes lines (state.after lexeme) (other.after lexeme) where
  alike := shifted.alike.after lexeme shifted.line
  offset := by
    simp only [State.after, Position.advance, shifted.offset]
    omega
  line := by
    simp only [State.after, Position.advance, shifted.line]
    omega

theorem found (shifted : Shifted bytes lines state other) (lexeme : Lexeme) :
    other.found lexeme = (state.found lexeme).map (shiftEntry bytes lines) := by
  cases lexeme with
  | lineComment body =>
    simp [State.found, comment?, shiftEntry, Comment.renumber, shifted.offset, shifted.line]
  | blockComment inner =>
    simp [State.found, comment?, shiftEntry, Comment.renumber, shifted.offset, shifted.line,
      Nat.add_right_comm]
  | _ => rfl

/-- A scan from further down finds the same further down, or fails in the same way. -/
theorem scanFrom_eq (shifted : Shifted bytes lines state other) (cs : List Char) :
    scanFrom other cs = shiftResult bytes lines (scanFrom state cs) := by
  induction state, cs using scan_induction generalizing other with
  | nil state =>
    rw [scanFrom_nil, scanFrom_nil, shifted.alike.openTemplateLine?_eq]
    cases state.openTemplateLine? <;> rfl
  | stuck state c cs hread =>
    have hread' := (shifted.alike.read?_eq c cs).trans hread
    rw [scanFrom_of_read_none hread, scanFrom_of_read_none hread', shifted.line]
    rfl
  | step state c cs lexeme rest hread ih =>
    have hread' := (shifted.alike.read?_eq c cs).trans hread
    rw [scanFrom_of_read hread, scanFrom_of_read hread', shifted.found,
      ih (shifted.after lexeme)]
    cases scanFrom (state.after lexeme) rest with
    | error error => rfl
    | ok comments => simp [Except.map, shiftResult]

end State.Shifted

/-- Behind fitting code that leaves an operand to be expected, a source is scanned as on its own. -/
theorem Code.scanFrom_append (code : Code) (cs : List Char) (fits : code.Fits true cs)
    (expects : code.operandExpectedAfter true = true) :
    scanFrom {} (code.text ++ cs) =
      (shiftResult (Text.byteLength code.text) (Text.lineBreaks code.text) (scanFrom {} cs)).map
        (code.comments {} ++ ·) := by
  have hsteps := Code.steps code {} cs rfl fits
  have hshifted : State.Shifted (Text.byteLength code.text) (Text.lineBreaks code.text) {}
      (State.behind {} code.text (code.operandExpectedAfter true)) :=
    ⟨⟨expects, rfl⟩, rfl, rfl⟩
  rw [hsteps.scanFrom_eq, hshifted.scanFrom_eq]

end Script

end WidgetPipeline
