import WidgetPipeline.Text.Pieces

/-!
Reference expressions: an at sign and a nonempty text in braces. A text is cut into its references
and the characters between them from left to right; the text of a reference ends at the first closing
brace, whatever stands before it. Main statement: the cut loses nothing (`flatMap_text_pieces`).
-/

namespace WidgetPipeline.Reference

/-- A character that belongs to no reference, or a reference by the text in its braces. -/
inductive Piece where
  | plain (c : Char)
  | reference (inner : List Char)
deriving DecidableEq, Repr

def expression (inner : List Char) : List Char := '@' :: '{' :: (inner ++ ['}'])

def Piece.text : Piece → List Char
  | .plain c => [c]
  | .reference inner => expression inner

/-- Cuts a text at the first closing brace: what stands before it and what follows it. -/
def splitAtBrace : List Char → Option (List Char × List Char)
  | [] => none
  | c :: cs =>
    if c = '}' then some ([], cs)
    else (splitAtBrace cs).map fun (inner, rest) => (c :: inner, rest)

/-- Reads the text of a reference whose opening brace is taken: the text, which is not empty, and
what follows the closing brace. -/
def readInner? (cs : List Char) : Option (List Char × List Char) :=
  (splitAtBrace cs).filter fun (inner, _) => !inner.isEmpty

theorem splitAtBrace_eq_some {cs inner rest : List Char}
    (h : splitAtBrace cs = some (inner, rest)) : inner ++ '}' :: rest = cs := by
  fun_induction splitAtBrace cs generalizing inner <;> grind [Option.map_eq_some_iff]

theorem readInner?_eq_some {cs inner rest : List Char} (h : readInner? cs = some (inner, rest)) :
    inner ++ '}' :: rest = cs :=
  splitAtBrace_eq_some (Option.filter_eq_some_iff.1 h).1

/-- Cuts a text into references and the characters between them. -/
def pieces : List Char → List Piece
  | [] => []
  | c :: cs =>
    match c, cs with
    | '@', '{' :: inside =>
      match _h : readInner? inside with
      | some (inner, rest) => .reference inner :: pieces rest
      | none => .plain '@' :: pieces ('{' :: inside)
    | c, cs => .plain c :: pieces cs
termination_by cs => cs.length
decreasing_by
  · have := congrArg List.length (readInner?_eq_some _h)
    simp only [List.length_append, List.length_cons] at this ⊢
    omega
  · simp
  · simp

theorem flatMap_text_pieces (cs : List Char) : (pieces cs).flatMap Piece.text = cs := by
  fun_induction pieces cs with
  | case1 => rfl
  | case2 inside inner rest h ih =>
    simp [Piece.text, expression, ih, readInner?_eq_some h]
  | case3 inside h ih => simp [Piece.text, ih]
  | case4 c cs hne ih => simp [Piece.text, ih]

end WidgetPipeline.Reference
