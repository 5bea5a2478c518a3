import WidgetPipeline.Proofs.Pipeline.Stages

/-!
# What the format check can change

The format check comes last and leaves the code alone: whatever a formatter does, the check adds a
diagnostic and a trace behind those that are there, or nothing (`checked_finish`). So two runs that
differ in the formatter, or in whether the check is asked for, fail together or leave the same code,
and all but the end of their logs and traces is that of the run without the check (`run_formatter`).
-/

namespace WidgetPipeline

/-- What a check may make of an output. The code stays. Behind the log there is one more diagnostic
at most, and behind the traces one more at most, of a check that left its text as it was and counts
what is new in the log. -/
structure PipelineOutput.Checked (base output : PipelineOutput) : Prop where
  code : output.code = base.code
  record : ∃ logs stages, output.logs = base.logs ++ logs ∧ logs.length ≤ 1 ∧
    output.stages = base.stages ++ stages ∧ stages.length ≤ 1 ∧
    ∀ trace ∈ stages, trace.id = "format.check" ∧ trace.inHash = trace.outHash ∧
      trace.diagnostics = logs.length

theorem length_logs_checkFormat_le (formatter : Formatter) (code : String) :
    (checkFormat formatter code).logs.length ≤ 1 := by
  rw [logs_checkFormat, List.length_map]
  exact Option.length_toList_le

namespace PipelineOutput

variable {base : PipelineOutput}

theorem Checked.refl : Checked base base :=
  ⟨rfl, [], [], by simp⟩

theorem Checked.log (note : Diagnostic) : Checked base (base.log note) :=
  ⟨rfl, [note], [], rfl, Nat.le_refl _, by simp [PipelineOutput.log]⟩

theorem Checked.andThen (formatter : Formatter) :
    Checked base (base.andThen .format (checkFormat formatter base.code)) := by
  refine ⟨checkFormat_code formatter base.code, _, _, rfl,
    length_logs_checkFormat_le formatter base.code, rfl, Nat.le_refl _, ?_⟩
  intro trace hmem
  rw [List.mem_singleton.1 hmem, checkFormat_code]
  exact ⟨rfl, rfl, rfl⟩

end PipelineOutput

namespace Runner

variable {runner : Runner} {tables : ReferenceTables} {options : PipelineOptions} {code : String}
  {extraction : Extraction}

theorem checked_finish (output : PipelineOutput) : output.Checked (runner.finish options output) := by
  unfold finish
  split
  · cases runner.formatter with
    | some formatter => exact .andThen formatter
    | none => exact .log _
  · exact .refl

theorem finish_of_not_format (h : options.format = false) (output : PipelineOutput) :
    runner.finish options output = output := by
  simp [finish, h]

theorem runExtracted_of_not_format (formatter : Option Formatter) :
    Runner.runExtracted { runner with formatter } tables { options with format := false } code
      extraction = runner.runExtracted tables { options with format := false } code extraction := by
  cases hskip : skipDirective? extraction.directives with
  | some directive =>
    rw [runExtracted_of_skip hskip, runExtracted_of_skip hskip]
    rfl
  | none =>
    rw [runExtracted_of_continue hskip, runExtracted_of_continue hskip, finish_of_not_format rfl,
      finish_of_not_format rfl]
    rfl

/-- The formatter and the check come in at the end of a run only. -/
theorem checked_runExtracted (formatter : Option Formatter) (format : Bool) :
    (runner.runExtracted tables { options with format := false } code extraction).Checked
      (Runner.runExtracted { runner with formatter } tables { options with format } code
        extraction) := by
  cases hskip : skipDirective? extraction.directives with
  | some directive =>
    rw [runExtracted_of_skip hskip, runExtracted_of_skip hskip]
    exact .refl
  | none =>
    rw [runExtracted_of_continue hskip, runExtracted_of_continue hskip, finish_of_not_format rfl]
    exact checked_finish _

/-- Runs that differ only in the formatter and in whether the format check is asked for. Either all
of them fail, with the same error of the scan, or all of them give a result. Those without the check
have one and the same result, and every other run leaves the code of that result, with at most one
diagnostic behind its log and at most one trace behind its traces, of a check whose input and output
have the same hash. -/
theorem run_formatter (runner : Runner) (tables : ReferenceTables) (options : PipelineOptions)
    (code : String) :
    (∃ error, runner.scanner code = .error error ∧ ∀ formatter format,
      Runner.run { runner with formatter } tables { options with format } code =
        .error (.commentScan error)) ∨
    ∃ base,
      (∀ formatter,
        Runner.run { runner with formatter } tables { options with format := false } code =
          .ok base) ∧
      ∀ formatter format, ∃ output,
        Runner.run { runner with formatter } tables { options with format } code = .ok output ∧
          base.Checked output := by
  cases hextract : extractDirectives runner.scanner code with
  | error error =>
    have hscan : runner.scanner code = .error error := extractDirectives_eq_error_iff.1 hextract
    refine .inl ⟨error, hscan, ?_⟩
    intro formatter format
    exact run_eq_error_iff.2 ⟨error, hscan, rfl⟩
  | ok extraction =>
    have hrun : ∀ formatter format,
        Runner.run { runner with formatter } tables { options with format } code =
          .ok (Runner.runExtracted { runner with formatter } tables { options with format } code
            extraction) :=
      fun formatter format => run_eq_ok_iff.2 ⟨extraction, hextract, rfl⟩
    refine .inr ⟨runner.runExtracted tables { options with format := false } code extraction, ?_, ?_⟩
    · intro formatter
      rw [hrun, runExtracted_of_not_format]
    · intro formatter format
      exact ⟨_, hrun formatter format, checked_runExtracted formatter format⟩

end Runner

end WidgetPipeline
