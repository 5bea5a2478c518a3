import WidgetPipeline.Script.Lexeme

/-!
The state of a scan between two lexemes: the place in the text, the template literals and
interpolations that are open, and whether an operand is expected next, so that a slash would open a
regular expression literal rather than divide.
-/

namespace WidgetPipeline.Script

/-- A place in a text: the bytes before it, and its line counted from 1. -/
structure Position where
  offset : Nat := 0
  line : Nat := 1
deriving DecidableEq, Repr

def Position.advance (position : Position) (text : List Char) : Position where
  offset := position.offset + Text.byteLength text
  line := position.line + Text.lineBreaks text

@[simp] theorem Position.advance_nil (position : Position) : position.advance [] = position := rfl

@[simp] theorem Position.advance_append (position : Position) (cs ds : List Char) :
    position.advance (cs ++ ds) = (position.advance cs).advance ds := by
  simp [advance, Nat.add_assoc]

/-- A construct that is open at some place in the text. -/
inductive Frame where
  /-- A template literal opened on this line. -/
  | template (line : Nat)
  /-- An interpolated expression, with the number of braces open inside it. -/
  | interpolation (depth : Nat)
deriving DecidableEq, Repr

/-- Words after which an operand follows. -/
def operandKeywords : List String :=
  ["return", "typeof", "instanceof", "in", "of", "new", "delete", "void", "throw", "case", "do",
    "else", "yield", "await"]

def operandSymbols : List Char := "=(,:[!&|?;+-*%^~".toList

/-- What a scan knows between two lexemes. -/
structure State where
  position : Position := {}
  /-- The open constructs, innermost first. -/
  frames : List Frame := []
  /-- A slash in this place opens a regular expression literal, if its line holds one. -/
  operandExpected : Bool := true
deriving DecidableEq, Repr

namespace State

/-- Whether the text in this place belongs to a template literal. -/
def inTemplate (state : State) : Bool :=
  match state.frames with
  | .template _ :: _ => true
  | _ => false

/-- The frames after an opening brace. Only braces inside an interpolation are counted. -/
def framesAfterOpenBrace : List Frame → List Frame
  | .interpolation depth :: frames => .interpolation (depth + 1) :: frames
  | frames => frames

/-- The frames after a closing brace, which ends an interpolation that has no brace open. -/
def framesAfterCloseBrace : List Frame → List Frame
  | .interpolation 0 :: frames => frames
  | .interpolation (depth + 1) :: frames => .interpolation depth :: frames
  | frames => frames

def framesAfter (state : State) : Lexeme → List Frame
  | .openTemplate => .template state.position.line :: state.frames
  | .closeTemplate => state.frames.tail
  | .openInterpolation => .interpolation 0 :: state.frames
  | .openBrace => framesAfterOpenBrace state.frames
  | .closeBrace => framesAfterCloseBrace state.frames
  | _ => state.frames

/-- Whether an operand is expected after a lexeme read in this state. Comments, white space and
literal text leave the expectation as it was. -/
def operandExpectedAfter (state : State) : Lexeme → Bool
  | .regex _ _ => false
  | .quoted _ _ closed => state.operandExpected && !closed
  | .closeTemplate => false
  | .openInterpolation => true
  | .openBrace => true
  | .closeBrace => false
  | .word first rest => operandKeywords.contains (String.ofList (first :: rest))
  | .symbol c => if c = '/' then state.operandExpected else operandSymbols.contains c
  | _ => state.operandExpected

def after (state : State) (lexeme : Lexeme) : State where
  position := state.position.advance lexeme.text
  frames := state.framesAfter lexeme
  operandExpected := state.operandExpectedAfter lexeme

def openTemplateLine? (state : State) : Option Nat :=
  state.frames.findSome? fun
    | .template line => some line
    | .interpolation _ => none

end State

/-- Reads the lexeme at the front of the text `c :: cs`. There is none where a block comment opens
that has no end. -/
def Lexeme.read? (state : State) (c : Char) (cs : List Char) : Option (Lexeme × List Char) :=
  if state.inTemplate then some (readTemplate c cs) else readCode? state.operandExpected c cs

theorem Lexeme.read?_eq_some {state : State} {c : Char} {cs rest : List Char} {lexeme : Lexeme}
    (h : read? state c cs = some (lexeme, rest)) : lexeme.text ++ rest = c :: cs := by
  unfold read? at h
  split at h
  · have happend := readTemplate_append c cs
    simp_all
  · exact readCode?_eq_some h

theorem Lexeme.length_lt_of_read? {state : State} {c : Char} {cs rest : List Char}
    {lexeme : Lexeme} (h : read? state c cs = some (lexeme, rest)) :
    rest.length < (c :: cs).length := by
  have hlength := congrArg List.length (read?_eq_some h)
  have hpos := List.length_pos_iff.2 lexeme.text_ne_nil
  simp only [List.length_append] at hlength
  omega

end WidgetPipeline.Script
