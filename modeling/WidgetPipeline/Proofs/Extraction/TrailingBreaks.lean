import WidgetPipeline.Cli.Run
import WidgetPipeline.Proofs.Extraction.Kept
import WidgetPipeline.Proofs.Script.LineBreak
import WidgetPipeline.Proofs.Script.Span

/-!
# Line breaks at the end of a source

A scan treats the end of a source and a line break in front of it alike, in whatever lexeme it comes
to it (`scanComments_push_break`), and the line that a break adds behind a source is empty, so that
extraction leaves it out (`ofComments_push_break`). So any number of line breaks may stand behind a
source, as one does behind the code that a run prints (`extractDirectives_trailingBreaks`).
-/

namespace WidgetPipeline

/-- What one more line break does not change, no number of them changes. -/
theorem Text.eq_of_push_break {α : Type} {f : String → α}
    (h : ∀ text, f (text.push '\n') = f text) (text : String) (count : Nat) :
    f (text.pushn '\n' count) = f text := by
  induction count with
  | zero => rfl
  | succ count ih => exact (h (text.pushn '\n' count)).trans ih

theorem Script.scanComments_push_break (source : String) :
    scanComments (source.push '\n') = scanComments source := by
  rw [scanComments, scanComments, String.toList_push, scanFrom_append_break]

namespace Extraction

open Script (scanComments)

/-- An empty line at the end goes with the other empty lines, whether a directive covers it or not.
-/
theorem joinNonempty_foldl_blankLines (directives : List Directive) (ls : List (List Char)) :
    joinNonempty (directives.foldl
        (fun ls directive => blankLines directive.firstLine directive.lastLine ls) (ls ++ [[]])) =
      joinNonempty (directives.foldl
        (fun ls directive => blankLines directive.firstLine directive.lastLine ls) ls) := by
  rw [foldl_blankLines, foldl_blankLines, List.mapIdx_append, joinNonempty, joinNonempty,
    List.filter_append]
  simp

theorem ofComments_push_break (comments : CommentMap) (code : String) :
    ofComments comments (code.push '\n') = ofComments comments code := by
  simp only [ofComments, String.toList_push, Text.lines_concat_break,
    joinNonempty_foldl_blankLines]

theorem extractDirectives_push_break (source : String) :
    extractDirectives scanComments (source.push '\n') =
      extractDirectives scanComments source := by
  rw [extractDirectives, extractDirectives, Script.scanComments_push_break]
  cases scanComments source with
  | error error => rfl
  | ok comments => exact congrArg Except.ok (ofComments_push_break comments source)

/-- Line breaks at the end of a source do not matter: a scan finds the same comments or fails in the
same way, and extraction gives the same. So what a run prints, the code and a line break, is
extracted like the code. -/
theorem extractDirectives_trailingBreaks :
    (∀ (source : String) (count : Nat),
      scanComments (source.pushn '\n' count) = scanComments source ∧
        extractDirectives scanComments (source.pushn '\n' count) =
          extractDirectives scanComments source) ∧
    ∀ (arguments : Cli.Arguments) (world : Cli.Surroundings) (output : PipelineOutput),
      arguments.transform world = .ok output → arguments.json = false →
        (arguments.run world).output = output.code ++ "\n" ∧
          extractDirectives scanComments (arguments.run world).output =
            extractDirectives scanComments output.code := by
  constructor
  · intro source count
    exact ⟨Text.eq_of_push_break Script.scanComments_push_break source count,
      Text.eq_of_push_break extractDirectives_push_break source count⟩
  · intro arguments world output htransform hjson
    have hprinted : (arguments.run world).output = output.code.push '\n' := by
      rw [Cli.Arguments.run, htransform, String.push_eq_append]
      simp only [Cli.Arguments.report, hjson]
      rfl
    rw [hprinted, extractDirectives_push_break]
    exact ⟨String.push_eq_append '\n', rfl⟩

/-- A directive above quoted text that nothing closes and that ends in a backslash. -/
def openEnd : String := "// @a\nb = 'c\\"

def openEndExtraction : Extraction where
  code := "b = 'c\\"
  directives := [⟨"a", none, 1, 1⟩]

/-- A run on this text without converters. -/
def openEndRun : Cli.Arguments where
  input := "-"
  noFormat := true

/-- No file, no program, and the text on the standard input. -/
def openEndWorld : Cli.Surroundings where
  fileText _ := .error .notFound
  standardInput := .ok openEnd
  host _ := .error .notFound

theorem extractDirectives_trailingBreaks_openEnd :
    extractDirectives scanComments (openEnd.pushn '\n' 2) = .ok openEndExtraction ∧
      ∃ output, openEndRun.transform openEndWorld = .ok output ∧ openEndRun.json = false ∧
        (openEndRun.run openEndWorld).output = "b = 'c\\\n" ∧
        extractDirectives scanComments (openEndRun.run openEndWorld).output =
          .ok { code := "b = 'c\\", directives := [] } := by
  obtain ⟨hbreaks, hprints⟩ := extractDirectives_trailingBreaks
  have hextract : extractDirectives scanComments openEnd = .ok openEndExtraction :=
    Script.eq_ok_of_toOption (by decide +kernel)
  have hagain : extractDirectives scanComments "b = 'c\\" =
      .ok { code := "b = 'c\\", directives := [] } :=
    Script.eq_ok_of_toOption (by decide +kernel)
  have hpipeline : Runner.run {} {} (openEndRun.options none) openEnd =
      .ok (Runner.runExtracted {} {} (openEndRun.options none) openEnd openEndExtraction) := by
    rw [Runner.run, hextract]
  have htransform : openEndRun.transform openEndWorld =
      .ok (Runner.runExtracted {} {} (openEndRun.options none) openEnd openEndExtraction) :=
    congrArg (Cli.orFail .pipeline) hpipeline
  have hcode : (Runner.runExtracted {} {} (openEndRun.options none) openEnd
      openEndExtraction).code = "b = 'c\\" := by
    decide +kernel
  obtain ⟨hprinted, hsame⟩ := hprints openEndRun openEndWorld _ htransform rfl
  rw [hcode] at hprinted hsame
  exact ⟨(hbreaks openEnd 2).2.trans hextract, _, htransform, rfl, hprinted, hsame.trans hagain⟩

end Extraction

end WidgetPipeline
