import WidgetPipeline.Proofs.Directive.Grammar
import WidgetPipeline.Proofs.Pipeline.Trace
import WidgetPipeline.Proofs.Reference.Resolution

/-!
# Runs that end early

A run ends before references are resolved if and only if a comment of the source text asks to skip.
What it leaves then comes from its first half, so two runs with different tables or formatters agree
in all they leave, and the note at the end names the line of the first such comment. No other
diagnostic of a run names a line (`run_skip`).
-/

namespace WidgetPipeline

variable {comments : CommentMap} {code : String} {diagnostic : Diagnostic}

/-! ## Comments that ask to skip -/

theorem Extraction.skips_ofComments_iff :
    (ofComments comments code).Skips ↔ ∃ comment ∈ comments.values, comment.AsksToSkip := by
  simp only [Skips, ofComments, List.mem_filterMap, Comment.asksToSkip_iff]
  constructor
  · rintro ⟨directive, ⟨comment, hmem, hdirective⟩, hname⟩
    exact ⟨comment, hmem, directive, hdirective, hname⟩
  · rintro ⟨comment, hmem, directive, hdirective, hname⟩
    exact ⟨directive, ⟨comment, hmem, hdirective⟩, hname⟩

/-- The directive that ends a run is that of the comment with the smallest offset of those that ask
to skip. -/
theorem exists_first_of_skipDirective? {directive : Directive}
    (h : Runner.skipDirective? (Extraction.ofComments comments code).directives = some directive) :
    ∃ first ∈ comments.toList, first.2.AsksToSkip ∧
      (∀ other ∈ comments.toList, other.2.AsksToSkip → first.1 ≤ other.1) ∧
      directive.firstLine = first.2.firstLine := by
  simp only [Runner.skipDirective?, Extraction.ofComments, OrderedMap.values, List.filterMap_map,
    List.find?_filterMap] at h
  obtain ⟨first, hfind, hdirective⟩ := Option.bind_eq_some_iff.1 h
  obtain ⟨hname, before, after, hcut, hbefore⟩ := List.find?_eq_some_iff_append.1 hfind
  have hskip : directive.name = "skip" := by
    rw [hdirective] at hname
    simpa using hname
  have hasks : first.2.AsksToSkip := Comment.asksToSkip_iff.2 ⟨directive, hdirective, hskip⟩
  have hline : directive.firstLine = first.2.firstLine := by
    obtain ⟨_, _, rfl⟩ := Option.map_eq_some_iff.1 hdirective
    rfl
  refine ⟨first, by simp [hcut], hasks, ?_, hline⟩
  intro other hother hother_asks
  have hascending := comments.ascending
  rw [hcut, Entries.Ascending, List.pairwise_append, List.pairwise_cons] at hascending
  rw [hcut, List.mem_append, List.mem_cons] at hother
  obtain hmem | rfl | hmem := hother
  · -- the search passed this one over
    obtain ⟨directive', hdirective', hname'⟩ := Comment.asksToSkip_iff.1 hother_asks
    simpa [hdirective', hname'] using hbefore other hmem
  · exact le_rfl
  · exact (Nat.compare_eq_lt.1 (hascending.2.1.1 other hmem)).le

/-! ## Diagnostics without a line -/

theorem line_of_mem_transpile {transpiler : Transpiler} {projectConfig : Option Json}
    (h : diagnostic ∈ (transpile transpiler projectConfig code).logs) : diagnostic.line = none := by
  rw [transpile_eq] at h
  rcases List.mem_append.1 h with h | h
  · obtain ⟨message, -, rfl⟩ := List.mem_map.1 h
    rfl
  · split at h
    · simp at h
    · rw [List.mem_singleton.1 h]
      rfl

theorem line_of_mem_checkFormat {formatter : Formatter}
    (h : diagnostic ∈ (checkFormat formatter code).logs) : diagnostic.line = none := by
  rw [logs_checkFormat] at h
  obtain ⟨message, -, rfl⟩ := List.mem_map.1 h
  rfl

theorem line_of_mem_resolveReferences {tables : ReferenceTables}
    (h : diagnostic ∈ (resolveReferences tables code).logs) : diagnostic.line = none := by
  obtain ⟨message, rfl⟩ := Reference.eq_warn_of_mem_resolveReferences h
  rfl

namespace Runner

variable {runner : Runner} {tables : ReferenceTables} {options : PipelineOptions}
  {extraction : Extraction}

theorem line_of_mem_transpiled (h : diagnostic ∈ (runner.transpiled options code).logs) :
    diagnostic.line = none := by
  unfold transpiled transpileStep at h
  split at h
  · split at h
    · exact line_of_mem_transpile h
    · rw [List.mem_singleton.1 h]
      rfl
  · simp at h

theorem line_of_mem_formatLogs (h : diagnostic ∈ runner.formatLogs options code) :
    diagnostic.line = none := by
  unfold formatLogs at h
  split at h
  · split at h
    · exact line_of_mem_checkFormat h
    · rw [List.mem_singleton.1 h]
      rfl
  · simp at h

/-- A run that goes on to the references names no line. -/
theorem line_of_mem_runExtracted (extracts : extractDirectives runner.scanner code = .ok extraction)
    (hskips : ¬ extraction.Skips)
    (h : diagnostic ∈ (runner.runExtracted tables options code extraction).logs) :
    diagnostic.line = none := by
  rw [runExtracted_of_continue (skipDirective?_eq_none_iff.2 hskips), finish_logs] at h
  simp only [PipelineOutput.andThen, prepared_logs, logs_of_extractDirectives extracts,
    List.nil_append, List.mem_append] at h
  obtain (h | h) | h := h
  · exact line_of_mem_transpiled h
  · exact line_of_mem_resolveReferences h
  · exact line_of_mem_formatLogs h

/-! ## Two runs -/

/-- References are left out in the runs that end early, and only there. -/
theorem resolve_not_mem_ids_iff (tables : ReferenceTables) (options : PipelineOptions)
    (extracts : extractDirectives runner.scanner code = .ok extraction) :
    Stage.resolve.name ∉ (runner.runExtracted tables options code extraction).stages.map (·.id) ↔
      extraction.Skips := by
  rw [ids_runExtracted tables options extracts, map_name_stages]
  by_cases hskips : extraction.Skips
  · cases hcompile : options.compile <;> simp [hskips, Stage.name]
  · simp [hskips, Stage.name]

/-- The source text alone decides whether a run ends early: it does if and only if one of the
comments asks to skip. Then the tables, the formatter and the format check have no part in the
result. It is the extracted code, as the transpile stage left it where that was asked for. Behind
the diagnostics of that stage stands one note, with the line of the comment with the smallest offset
of those that ask to skip. In a run that does not end early no diagnostic has a line. -/
theorem run_skip (runner : Runner) (options : PipelineOptions)
    (scans : runner.scanner code = .ok comments) :
    (∀ tables formatter format, ∃ output,
      Runner.run { runner with formatter } tables { options with format } code = .ok output ∧
        (Stage.resolve.name ∉ output.stages.map (·.id) ↔
          ∃ comment ∈ comments.values, comment.AsksToSkip)) ∧
    ((∃ comment ∈ comments.values, comment.AsksToSkip) →
      ∃ extraction step output first, extractDirectives runner.scanner code = .ok extraction ∧
        (options.compile = false → step = { code := extraction.code }) ∧
        (options.compile = true → step =
          match runner.transpiler with
          | some transpiler => transpile transpiler options.projectConfig extraction.code
          | none =>
            { code := extraction.code, logs := [.error "No TypeScript transpiler configured"] }) ∧
        (∀ tables formatter format,
          Runner.run { runner with formatter } tables { options with format } code = .ok output) ∧
        output.code = step.code ∧
        output.logs = step.logs ++
          [{ message := "Skipping compilation because of @skip comment"
             level := .info
             line := some first.2.firstLine }] ∧
        first ∈ comments.toList ∧ first.2.AsksToSkip ∧
        ∀ other ∈ comments.toList, other.2.AsksToSkip → first.1 ≤ other.1) ∧
    ((∀ comment ∈ comments.values, ¬ comment.AsksToSkip) →
      ∀ tables formatter format output,
        Runner.run { runner with formatter } tables { options with format } code = .ok output →
          ∀ diagnostic ∈ output.logs, diagnostic.line = none) := by
  have extracts : extractDirectives runner.scanner code =
      .ok (Extraction.ofComments comments code) :=
    extractDirectives_eq_ok_iff.2 ⟨comments, scans, rfl⟩
  have hiff : (Extraction.ofComments comments code).Skips ↔
      ∃ comment ∈ comments.values, comment.AsksToSkip := Extraction.skips_ofComments_iff
  rw [← hiff]
  refine ⟨?_, ?_, ?_⟩
  · intro tables formatter format
    exact ⟨_, run_eq_ok_iff.2 ⟨_, extracts, rfl⟩, resolve_not_mem_ids_iff tables _ extracts⟩
  · intro hskips
    obtain ⟨directive, hskip⟩ := skips_iff.1 hskips
    obtain ⟨first, hmem, hasks, hfirst, hline⟩ := exists_first_of_skipDirective? hskip
    refine ⟨_, runner.transpiled options (Extraction.ofComments comments code).code,
      (runner.prepared options code (Extraction.ofComments comments code)).log
        (skipNote directive), first, extracts, ?_, ?_, ?_, ?_, ?_, hmem, hasks, hfirst⟩
    · intro hcompile
      rw [transpiled, if_neg (by simp [hcompile])]
    · intro hcompile
      rw [transpiled, if_pos hcompile]
      rfl
    · intro tables formatter format
      exact run_eq_ok_iff.2 ⟨_, extracts, runExtracted_of_skip hskip⟩
    · exact prepared_code
    · simp [PipelineOutput.log, prepared_logs, Extraction.ofComments, skipNote, hline]
  · intro hnone tables formatter format output hrun diagnostic hmem
    obtain ⟨extraction, hextraction, rfl⟩ := run_eq_ok_iff.1 hrun
    obtain rfl := Except.ok.inj (hextraction.symm.trans extracts)
    have hskips : ¬ (Extraction.ofComments comments code).Skips := by
      simpa [hiff] using hnone
    refine line_of_mem_runExtracted ?_ hskips hmem
    exact extracts

/-- Two directives. The word of the second is `skip`, that of the first only begins with it. -/
def skippedSource : String := "// @skipper\n// @skip-y\nx"

def skippedComments : CommentMap where
  toList := [(0, ⟨"@skipper", 1, 1⟩), (12, ⟨"@skip-y", 2, 2⟩)]

theorem scanComments_skippedSource : Script.scanComments skippedSource = .ok skippedComments :=
  Script.eq_ok_of_toOption (by decide +kernel)

theorem run_skip_skippedSource :
    ∃ output,
      (∀ tables formatter format,
        Runner.run { formatter } tables { compile := true, format } skippedSource = .ok output) ∧
      output.code = "x" ∧
      output.logs =
        [.error "No TypeScript transpiler configured",
          { message := "Skipping compilation because of @skip comment"
            level := .info
            line := some 2 }] := by
  have hcode : (Extraction.ofComments skippedComments skippedSource).code = "x" := by
    decide +kernel
  have hline : ∀ entry ∈ skippedComments.toList, entry.2.AsksToSkip → entry.2.firstLine = 2 := by
    decide +kernel
  obtain ⟨-, hskip, -⟩ := run_skip {} { compile := true } scanComments_skippedSource
  obtain ⟨extraction, step, output, first, extracts, -, hstep, hruns, houtput, hlogs, hmem, hasks,
    -⟩ := hskip (by decide +kernel)
  obtain ⟨_, hscan, rfl⟩ := extractDirectives_eq_ok_iff.1 extracts
  obtain rfl := Except.ok.inj (hscan.symm.trans scanComments_skippedSource)
  rw [hstep rfl] at houtput hlogs
  rw [hline first hmem hasks] at hlogs
  exact ⟨output, hruns, houtput.trans hcode, hlogs⟩

end Runner

end WidgetPipeline
