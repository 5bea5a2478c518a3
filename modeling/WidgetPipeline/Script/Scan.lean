import WidgetPipeline.Comment
import WidgetPipeline.Script.State

/-!
Scanning script source for comments. The scan reads one lexeme after the other and keeps those that
are comments, each under the offset at which it starts.
-/

namespace WidgetPipeline.Script

/-- The text of a block comment: each line without the white space around it and without the
asterisks that lead it, lines without text left out. -/
def blockContent (inner : List Char) : List Char :=
  let contents := (Text.lines inner).map fun line =>
    Text.trim ((Text.trim line).dropWhile (· = '*'))
  ['\n'].intercalate (contents.filter (· ≠ []))

def State.comment? (state : State) : Lexeme → Option Comment
  | .lineComment body =>
    some ⟨String.ofList (Text.trim body), state.position.line, state.position.line⟩
  | .blockComment inner =>
    some ⟨String.ofList (blockContent inner), state.position.line,
      state.position.line + Text.lineBreaks inner⟩
  | _ => none

/-- Scans the rest of a text and lists the comments with their offsets, in source order. -/
def scanFrom (state : State) : List Char → Except ScanError (List (Nat × Comment))
  | [] =>
    match state.openTemplateLine? with
    | some line => .error (.unclosedLiteral .template line)
    | none => .ok []
  | c :: cs =>
    match _h : Lexeme.read? state c cs with
    | none => .error (.unclosedBlockComment state.position.line)
    | some (lexeme, rest) =>
      match scanFrom (state.after lexeme) rest with
      | .error error => .error error
      | .ok comments =>
        match state.comment? lexeme with
        | some comment => .ok ((state.position.offset, comment) :: comments)
        | none => .ok comments
termination_by cs => cs.length
decreasing_by exact Lexeme.length_lt_of_read? _h

def scanComments : CommentScanner := fun source =>
  (scanFrom {} source.toList).map OrderedMap.ofList

end WidgetPipeline.Script
