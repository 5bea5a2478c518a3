import WidgetPipeline.Proofs.Extraction.Kept
import WidgetPipeline.Proofs.Script.Span

/-!
# Directives on lines of their own

Extraction takes whole lines, whatever else stands on them. A source is well laid out if that is
nothing but white space, and if no line break is escaped, so that no literal goes on behind it.
`Separates` is what a scan of the remaining code needs to know of the kept lines, and
`WellLaidOut.separates` provides it.
-/

namespace WidgetPipeline

open Text (byteLength lineBreaks)
open Script (Spans)

/-- Whether the comment holds a directive. -/
def Comment.isDirective (comment : Comment) : Bool := (Directive.ofComment? comment).isSome

namespace Extraction

/-- The byte at the offset belongs to a directive's comment. -/
def InDirective (source : List Char) (comments : List (Nat × Comment)) (offset : Nat) : Prop :=
  ∃ entry ∈ comments, entry.2.isDirective = true ∧
    ∃ stop, Spans source entry.1 entry.2 stop ∧ entry.1 ≤ offset ∧ offset < stop

/-- A directive's comment covers the line. -/
def OnDirectiveLine (comments : List (Nat × Comment)) (number : Nat) : Prop :=
  ∃ entry ∈ comments, entry.2.isDirective = true ∧
    entry.2.firstLine ≤ number ∧ number ≤ entry.2.lastLine

/-- No line break stands behind a backslash, and the lines that directives cover hold nothing
besides directives and white space. -/
structure WellLaidOut (source : List Char) (comments : List (Nat × Comment)) : Prop where
  unescaped : ∀ before after, source ≠ before ++ '\\' :: '\n' :: after
  alone : ∀ before c after, source = before ++ c :: after →
    OnDirectiveLine comments (1 + lineBreaks before) →
    Text.isBlank c = true ∨ InDirective source comments (byteLength before)

/-- The kept lines hold no part of a directive, and what is dropped is a line break or stands on a
directive's line and is white space or part of a directive. -/
structure Separates (keep : Nat → Bool) (source : List Char) (comments : List (Nat × Comment)) :
    Prop where
  unescaped : ∀ before after, source ≠ before ++ '\\' :: '\n' :: after
  directive : ∀ number, OnDirectiveLine comments number → keep number = false
  dropped : ∀ before c after, source = before ++ c :: after → c ≠ '\n' →
    keep (1 + lineBreaks before) = false →
    OnDirectiveLine comments (1 + lineBreaks before) ∧
      (Text.isBlank c = true ∨ InDirective source comments (byteLength before))

theorem covered_iff {comments : List (Nat × Comment)} {number : Nat} :
    covered ((comments.map (·.2)).filterMap Directive.ofComment?) number = true ↔
      OnDirectiveLine comments number := by
  simp only [covered, List.any_eq_true, List.mem_filterMap, List.mem_map, Directive.covers,
    Bool.and_eq_true, decide_eq_true_eq, OnDirectiveLine, Comment.isDirective]
  constructor
  · rintro ⟨directive, ⟨_, ⟨entry, hmem, rfl⟩, hof⟩, hcovers⟩
    obtain ⟨pair, _, rfl⟩ := Option.map_eq_some_iff.1 hof
    exact ⟨entry, hmem, by rw [hof]; rfl, hcovers⟩
  · rintro ⟨entry, hmem, hsome, hcovers⟩
    obtain ⟨directive, hof⟩ := Option.isSome_iff_exists.1 hsome
    obtain ⟨pair, _, rfl⟩ := Option.map_eq_some_iff.1 hof
    exact ⟨_, ⟨_, ⟨entry, hmem, rfl⟩, hof⟩, hcovers⟩

/-- In a well laid out source the lines that extraction keeps are apart from the directives. -/
theorem WellLaidOut.separates {source : List Char} {comments : List (Nat × Comment)}
    (layout : WellLaidOut source comments) :
    Separates (keeps ((comments.map (·.2)).filterMap Directive.ofComment?) source) source
      comments where
  unescaped := layout.unescaped
  directive := by
    intro number hnumber
    rw [keeps, covered_iff.2 hnumber, Bool.not_true, Bool.and_false]
  dropped := by
    intro before c after hsource hc hdrop
    have hline := covered_iff.1 (covered_of_keeps_eq_false hsource hc hdrop)
    exact ⟨hline, layout.alone before c after hsource hline⟩

end Extraction

end WidgetPipeline
