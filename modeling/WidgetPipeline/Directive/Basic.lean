import WidgetPipeline.Comment
import WidgetPipeline.Text.Pieces

/-!
Directives: comments that instruct the pipeline. A directive is an at sign and a name, and may carry
a value in parentheses, which end at the last closing parenthesis of the line.
-/

namespace WidgetPipeline

structure Directive where
  name : String
  /-- The text between the parentheses, if there are any. -/
  value : Option String
  firstLine : Nat
  lastLine : Nat
deriving DecidableEq, Repr

namespace Directive

def beforeLast? (c : Char) (cs : List Char) : Option (List Char) :=
  match cs.reverse.dropWhile (· ≠ c) with
  | [] => none
  | _ :: before => some before.reverse

/-- The longest text in parentheses at the front of a text, with its parentheses and on one line. -/
def group? : List Char → Option (List Char)
  | '(' :: cs =>
    (beforeLast? ')' (cs.takeWhile (· ≠ '\n'))).map fun value => '(' :: (value ++ [')'])
  | _ => none

def unwrapped (cs : List Char) : List Char := cs.tail.dropLast

def value? (cs : List Char) : Option (List Char) := (group? cs).map unwrapped

/-- The name and the value of the directive in a comment's content, if it holds one. -/
def parse? (content : List Char) : Option (List Char × Option (List Char)) :=
  match Text.trimStart content with
  | '@' :: cs =>
    let name := cs.takeWhile Text.isWordChar
    if name.isEmpty then none else some (name, value? (cs.dropWhile Text.isWordChar))
  | _ => none

def ofComment? (comment : Comment) : Option Directive :=
  (parse? comment.content.toList).map fun (name, value) =>
    { name := String.ofList name
      value := value.map String.ofList
      firstLine := comment.firstLine
      lastLine := comment.lastLine }

end Directive

end WidgetPipeline
