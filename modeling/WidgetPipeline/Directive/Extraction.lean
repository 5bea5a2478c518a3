import WidgetPipeline.Diagnostic
import WidgetPipeline.Directive.Basic

/-!
Extraction of directives: the directives of a source text in the order of their comments, and the
text without the lines that their comments cover and without empty lines.
-/

namespace WidgetPipeline

/-- The directives of a source text and what remains of it. -/
structure Extraction where
  code : String
  logs : List Diagnostic := []
  directives : List Directive
deriving DecidableEq, Repr

namespace Extraction

/-- Empties the lines from `first` to `last`, counted from 1. Lines that do not exist are passed
over. -/
def blankLines (first last : Nat) (lines : List (List Char)) : List (List Char) :=
  lines.mapIdx fun index line => if first ≤ index + 1 ∧ index + 1 ≤ last then [] else line

def joinNonempty (lines : List (List Char)) : List Char :=
  ['\n'].intercalate (lines.filter (· ≠ []))

/-- Takes the directives out of a text whose comments are known. -/
def ofComments (comments : CommentMap) (code : String) : Extraction :=
  let directives := comments.values.filterMap Directive.ofComment?
  let lines := directives.foldl
    (fun lines directive => blankLines directive.firstLine directive.lastLine lines)
    (Text.lines code.toList)
  { code := String.ofList (joinNonempty lines), directives }

end Extraction

def extractDirectives (scanner : CommentScanner) (code : String) : Except ScanError Extraction :=
  (scanner code).map fun comments => Extraction.ofComments comments code

section

variable {scanner : CommentScanner} {code : String}

theorem extractDirectives_eq_ok_iff {extraction : Extraction} :
    extractDirectives scanner code = .ok extraction ↔
      ∃ comments, scanner code = .ok comments ∧ Extraction.ofComments comments code = extraction := by
  rw [extractDirectives]
  cases scanner code with
  | error error => simp [Except.map]
  | ok comments => simp [Except.map]

theorem extractDirectives_eq_error_iff {error : ScanError} :
    extractDirectives scanner code = .error error ↔ scanner code = .error error := by
  rw [extractDirectives]
  cases scanner code with
  | error error => simp [Except.map]
  | ok comments => simp [Except.map]

end

end WidgetPipeline
