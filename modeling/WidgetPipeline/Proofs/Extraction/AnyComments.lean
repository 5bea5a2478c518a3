import Mathlib.Data.List.Forall2
import WidgetPipeline.Proofs.Directive.Grammar
import WidgetPipeline.Proofs.Extraction.Layout

/-!
# Extraction for any comments

Extraction makes no use of where comments really stand. Whatever a scanner says of them, also lines
that do not exist and ranges that overlap or run backwards, there is one directive for each comment
that begins like one, and what is left are the lines with something on them whose numbers are in no
range of such a comment (`extractDirectives_lines`). Emptying the others one at a time, in any order,
comes to the same (`foldl_blankLine_of_mem_iff`).
-/

namespace WidgetPipeline

/-! ## Comments that are directives -/

/-- Behind white space the comment begins with an at sign and a character of a word. -/
def Comment.BeginsDirective (comment : Comment) : Prop :=
  ∃ c rest, Text.trimStart comment.content.toList = '@' :: c :: rest ∧ Text.isWordChar c = true

/-- The range of the comment has the line in it. -/
def Comment.Covers (comment : Comment) (number : Nat) : Prop :=
  comment.firstLine ≤ number ∧ number ≤ comment.lastLine

instance (comment : Comment) (number : Nat) : Decidable (comment.Covers number) :=
  inferInstanceAs (Decidable (_ ∧ _))

/-- The directive has the lines of the comment, and for its name the word behind the at sign. -/
def Directive.IsOf (comment : Comment) (directive : Directive) : Prop :=
  directive.firstLine = comment.firstLine ∧ directive.lastLine = comment.lastLine ∧
    directive.name ≠ "" ∧ (∀ c ∈ directive.name.toList, Text.isWordChar c = true) ∧
    ∃ rest, Text.trimStart comment.content.toList = '@' :: (directive.name.toList ++ rest) ∧
      ∀ c ∈ rest.head?, Text.isWordChar c = false

theorem Directive.isOf_of_ofComment? {comment : Comment} {directive : Directive}
    (h : ofComment? comment = some directive) : IsOf comment directive := by
  obtain ⟨⟨name, value⟩, hparse, rfl⟩ := Option.map_eq_some_iff.1 h
  obtain ⟨hne, hword, rest, htrim, hahead, -⟩ := parse?_eq_some_iff.1 hparse
  refine ⟨rfl, rfl, ?_, ?_, rest, ?_, hahead⟩
  · simpa using hne
  · simpa using hword
  · simpa using htrim

theorem Comment.isDirective_iff {comment : Comment} :
    comment.isDirective = true ↔ comment.BeginsDirective :=
  Directive.isSome_ofComment?_iff

instance (comment : Comment) : Decidable comment.BeginsDirective :=
  decidable_of_iff _ Comment.isDirective_iff

theorem Comment.decide_beginsDirective (comment : Comment) :
    decide comment.BeginsDirective = (Directive.ofComment? comment).isSome := by
  rw [Bool.eq_iff_iff, decide_eq_true_iff, ← isDirective_iff, isDirective]

namespace Extraction

variable {comments others : CommentMap} {code : String}

theorem filterMap_ofComment? (comments : List Comment) :
    List.Forall₂ Directive.IsOf (comments.filter fun comment => comment.BeginsDirective)
      (comments.filterMap Directive.ofComment?) := by
  induction comments with
  | nil => exact .nil
  | cons comment comments ih =>
    have hbegins := Comment.decide_beginsDirective comment
    rw [List.filter_cons, hbegins]
    cases hdirective : Directive.ofComment? comment with
    | none => simpa [hdirective] using ih
    | some directive =>
      rw [List.filterMap_cons_some hdirective]
      exact .cons (Directive.isOf_of_ofComment? hdirective) ih

/-- The other comments have no part in the extraction. -/
theorem ofComments_congr
    (h : (others.values.filter fun comment => comment.BeginsDirective) =
      comments.values.filter fun comment => comment.BeginsDirective) :
    ofComments others code = ofComments comments code := by
  have hfilter : ∀ comments : List Comment, comments.filterMap Directive.ofComment? =
      (comments.filter fun comment => comment.BeginsDirective).filterMap Directive.ofComment? := by
    intro comments
    rw [List.filterMap_filter]
    congr 1
    funext comment
    rw [Comment.decide_beginsDirective]
    cases Directive.ofComment? comment <;> rfl
  rw [ofComments, ofComments, hfilter others.values, h, ← hfilter]

/-! ## Lines by number -/

theorem covered_eq_true_iff {number : Nat} :
    covered (ofComments comments code).directives number = true ↔
      ∃ comment ∈ comments.values, comment.BeginsDirective ∧ comment.Covers number := by
  refine covered_iff.trans ?_
  simp only [OnDirectiveLine, Comment.isDirective_iff, OrderedMap.values, List.mem_map,
    exists_exists_and_eq_and, Comment.Covers]

theorem selectLines_eq_filter_zipIdx (keep : Nat → Bool) (number : Nat) (ls : List (List Char)) :
    Text.selectLines keep number ls =
      ((ls.zipIdx number).filter fun entry => keep entry.2).map (·.1) := by
  induction ls generalizing number with
  | nil => rfl
  | cons line ls ih =>
    rw [Text.selectLines, List.zipIdx_cons, List.filter_cons, ih]
    split <;> rfl

/-- The lines of a text with something on them whose numbers are in no range of a directive. -/
def plainLines (comments : List Comment) (source : List Char) : List (List Char) :=
  (((Text.lines source).zipIdx 1).filter fun entry =>
    entry.1 ≠ [] ∧ ∀ comment ∈ comments, comment.BeginsDirective → ¬ comment.Covers entry.2).map
      (·.1)

theorem toList_code_eq_intercalate (comments : CommentMap) (code : String) :
    (ofComments comments code).code.toList =
      ['\n'].intercalate (plainLines comments.values code.toList) := by
  rw [toList_code, selectLines_eq_filter_zipIdx, plainLines]
  congr 2
  refine List.filter_congr fun entry hmem => ?_
  obtain ⟨hle, hline⟩ := List.mem_zipIdx_iff_le_and_getElem?_sub.1 hmem
  rw [keeps, hline, Option.any_some, Bool.eq_iff_iff, decide_eq_true_iff, Bool.and_eq_true]
  simp only [Bool.not_eq_true', ← Bool.not_eq_true, covered_eq_true_iff, List.isEmpty_iff, ne_eq,
    not_exists, not_and]

/-- Empties a line by its number, counted from 1. There is no line 0 and none behind the last. -/
def blankLine (lines : List (List Char)) : Nat → List (List Char)
  | 0 => lines
  | index + 1 => lines.set index []

theorem foldl_blankLine (numbers : List Nat) (ls : List (List Char)) :
    numbers.foldl blankLine ls =
      ls.mapIdx fun index line => if index + 1 ∈ numbers then [] else line := by
  induction numbers generalizing ls with
  | nil => simp [List.mapIdx_eq_zipIdx_map]
  | cons number numbers ih =>
    have hfirst : blankLine ls number =
        ls.mapIdx fun index line => if index + 1 = number then [] else line := by
      apply List.ext_getElem?
      intro index
      cases number with
      | zero => simp [blankLine]
      | succ first => grind [blankLine]
    rw [List.foldl_cons, ih, hfirst, List.mapIdx_mapIdx]
    congr 1
    funext index line
    simp only [Function.comp_apply, List.mem_cons]
    grind

/-- It does not matter in which order, or how often, the lines are emptied that directives cover. -/
theorem foldl_blankLine_of_mem_iff {numbers : List Nat}
    (h : ∀ number, number ∈ numbers ↔
      covered (ofComments comments code).directives number = true) :
    joinNonempty (numbers.foldl blankLine (Text.lines code.toList)) =
      (ofComments comments code).code.toList := by
  have hlines : numbers.foldl blankLine (Text.lines code.toList) =
      (ofComments comments code).directives.foldl
        (fun ls directive => blankLines directive.firstLine directive.lastLine ls)
        (Text.lines code.toList) := by
    rw [foldl_blankLine, foldl_blankLines]
    congr 1
    funext index line
    simp only [h, Nat.add_comm 1]
  rw [hlines]
  simp only [ofComments, String.toList_ofList]

/-- The numbers of the lines that a directive covers, one after the other. -/
def lineNumbers (directive : Directive) : List Nat :=
  List.range' directive.firstLine (directive.lastLine + 1 - directive.firstLine)

theorem mem_flatMap_lineNumbers {directives : List Directive} {number : Nat} :
    number ∈ directives.flatMap lineNumbers ↔ covered directives number = true := by
  simp only [List.mem_flatMap, lineNumbers, List.mem_range'_1, covered, List.any_eq_true,
    Directive.covers, Bool.and_eq_true, decide_eq_true_eq]
  refine exists_congr fun directive => and_congr_right fun _ => ?_
  omega

/-! ## A text without empty lines -/

theorem nil_not_mem_lines_code (h : (ofComments comments code).code ≠ "") :
    [] ∉ Text.lines (ofComments comments code).code.toList := by
  have hplain : ∀ line ∈ plainLines comments.values code.toList, line ≠ [] ∧ '\n' ∉ line := by
    intro line hmem
    obtain ⟨entry, hentry, rfl⟩ := List.mem_map.1 hmem
    obtain ⟨hzip, hkeep⟩ := List.mem_filter.1 hentry
    have hline := (List.mem_zipIdx_iff_le_and_getElem?_sub.1 hzip).2
    exact ⟨(of_decide_eq_true hkeep).1, Text.not_mem_of_mem_lines (List.mem_of_getElem? hline)⟩
  have hne : plainLines comments.values code.toList ≠ [] := by
    intro hnil
    have hcode := toList_code_eq_intercalate comments code
    rw [hnil] at hcode
    exact h (String.toList_eq_nil_iff.1 hcode)
  rw [toList_code_eq_intercalate,
    Text.lines_intercalate hne fun line hmem => (hplain line hmem).2]
  exact fun hmem => (hplain [] hmem).1 rfl

/-- What is left neither starts nor ends with a line break. -/
theorem ends_code :
    (ofComments comments code).code.toList.head? ≠ some '\n' ∧
      (ofComments comments code).code.toList.getLast? ≠ some '\n' := by
  by_cases hempty : (ofComments comments code).code = ""
  · simp [hempty]
  · have hlines := nil_not_mem_lines_code hempty
    constructor
    · intro hhead
      obtain ⟨rest, hrest⟩ := List.head?_eq_some_iff.1 hhead
      rw [hrest] at hlines
      exact hlines (by simp [Text.lines, Text.pieces])
    · intro hlast
      obtain ⟨front, hfront⟩ := List.getLast?_eq_some_iff.1 hlast
      rw [hfront, Text.lines_concat_break] at hlines
      exact hlines (by simp)

/-- Extraction for any comments that a scanner may give, wherever it says that they are. Each comment
that begins like a directive gives one directive, in the order of their offsets, with the lines of
the comment. The code that is left is made of the lines of the text with something on them whose
numbers are in no range of such a comment. So it has no empty line and no line break at its ends,
comments of other kinds have no part in it, and it is what comes of emptying the lines of one
directive after the other, in any order of the directives. -/
theorem extractDirectives_lines {scanner : CommentScanner} (scans : scanner code = .ok comments) :
    ∃ extraction, extractDirectives scanner code = .ok extraction ∧
      List.Forall₂ Directive.IsOf
        (comments.values.filter fun comment => comment.BeginsDirective) extraction.directives ∧
      extraction.code.toList = ['\n'].intercalate
        ((((Text.lines code.toList).zipIdx 1).filter fun entry =>
          entry.1 ≠ [] ∧ ∀ comment ∈ comments.values,
            comment.BeginsDirective → ¬ comment.Covers entry.2).map (·.1)) ∧
      (extraction.code ≠ "" → [] ∉ Text.lines extraction.code.toList) ∧
      extraction.code.toList.head? ≠ some '\n' ∧ extraction.code.toList.getLast? ≠ some '\n' ∧
      (∀ others : CommentMap,
        (others.values.filter fun comment => comment.BeginsDirective) =
          comments.values.filter (fun comment => comment.BeginsDirective) →
        extractDirectives (fun _ => .ok others) code = .ok extraction) ∧
      ∀ directives : List Directive, directives.Perm extraction.directives →
        joinNonempty ((directives.flatMap lineNumbers).foldl blankLine (Text.lines code.toList)) =
          extraction.code.toList := by
  refine ⟨ofComments comments code, extractDirectives_eq_ok_iff.2 ⟨comments, scans, rfl⟩,
    filterMap_ofComment? comments.values, toList_code_eq_intercalate comments code,
    nil_not_mem_lines_code, ends_code.1, ends_code.2, ?_, ?_⟩
  · intro others hothers
    exact extractDirectives_eq_ok_iff.2 ⟨others, rfl, ofComments_congr hothers⟩
  · intro directives hperm
    refine foldl_blankLine_of_mem_iff fun number => ?_
    rw [(hperm.flatMap_right lineNumbers).mem_iff, mem_flatMap_lineNumbers]

/-- Comments on lines that do not exist, in ranges that overlap and one that runs backwards, and one
that is no directive. -/
def strayComments : CommentMap where
  toList := [(0, ⟨"@a", 0, 1⟩), (5, ⟨"note @b", 3, 3⟩), (7, ⟨"@c(x)", 4, 2⟩), (9, ⟨" @d", 5, 7⟩),
    (9000, ⟨"@d", 6, 9⟩)]

/-- Seven lines, two of them empty. -/
def strayText : String := "u\n\nv\nw\nx\n\ny"

/-- A scanner that finds the stray comments in every text. -/
def strayScanner : CommentScanner := fun _ => .ok strayComments

theorem extractDirectives_lines_strayComments :
    ∃ extraction, extractDirectives strayScanner strayText = .ok extraction ∧
      extraction.code = "v\nw" ∧
      extraction.directives.map (fun directive => (directive.firstLine, directive.lastLine)) =
        [(0, 1), (4, 2), (5, 7), (6, 9)] := by
  have scans : strayScanner strayText = .ok strayComments := rfl
  obtain ⟨extraction, hextraction, hdirectives, hcode, -⟩ := extractDirectives_lines scans
  refine ⟨extraction, hextraction, ?_, ?_⟩
  · rw [← String.toList_inj, hcode]
    decide +kernel
  · have hlines : List.Forall₂ (fun comment directive =>
        (comment.firstLine, comment.lastLine) = (directive.firstLine, directive.lastLine))
        (strayComments.values.filter fun comment => comment.BeginsDirective)
        extraction.directives :=
      hdirectives.imp fun _ _ hof => by rw [hof.1, hof.2.1]
    have hranges := List.forall₂_eq_eq_eq ▸ List.forall₂_map_left_iff.2
      (List.forall₂_map_right_iff.2 hlines)
    rw [← hranges]
    decide +kernel

end Extraction

end WidgetPipeline
