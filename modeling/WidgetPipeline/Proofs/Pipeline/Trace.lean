import Mathlib.Data.List.Chain
import WidgetPipeline.Proofs.Pipeline.Stages

/-!
# What a run records

A run takes a text from stage to stage (`Reaches`). Every stage takes up the text that the one
before it left, leaves a trace with the hashes of both texts and adds as many diagnostics as the
trace counts (`Reaches.recorded`). So the traces of a whole run are a chain from the source text to
the result, and its log falls into the diagnostics of the stages and a note at the end
(`run_traces`).
-/

namespace WidgetPipeline

open PipelineOutput (hashText)

/-- A stage of a run: the text that it was given, and what it made of it. -/
structure StageRun where
  stage : Stage
  input : String
  output : StepOutput

/-- The trace of the stage. -/
def StageRun.trace (run : StageRun) : StageTrace where
  id := run.stage.name
  inHash := hashText run.input
  outHash := hashText run.output.code
  diagnostics := run.output.logs.length

/-- From a first text to a last one every stage takes up what the stage before it left. -/
def Leads : String → List StageRun → String → Prop
  | first, [], last => first = last
  | first, run :: runs, last => run.input = first ∧ Leads run.output.code runs last

namespace Leads

variable {first last : String} {runs : List StageRun}

theorem append (run : StageRun) (h : Leads first runs run.input) :
    Leads first (runs ++ [run]) run.output.code := by
  induction runs generalizing first with
  | nil => exact ⟨h.symm, rfl⟩
  | cons head tail ih => exact ⟨h.1, ih h.2⟩

theorem head?_trace (h : Leads first runs last) (hne : runs ≠ []) :
    (runs.map StageRun.trace).head?.map (·.inHash) = some (hashText first) := by
  cases runs with
  | nil => exact absurd rfl hne
  | cons head tail =>
    rw [← h.1]
    rfl

theorem isChain_trace (h : Leads first runs last) :
    (runs.map StageRun.trace).IsChain fun earlier later => later.inHash = earlier.outHash := by
  induction runs generalizing first with
  | nil => exact .nil
  | cons head tail ih =>
    cases tail with
    | nil => exact .singleton _
    | cons next tail => exact .cons_cons (congrArg hashText h.2.1) (ih h.2)

theorem getLast?_trace (h : Leads first runs last) (hne : runs ≠ []) :
    (runs.map StageRun.trace).getLast?.map (·.outHash) = some (hashText last) := by
  induction runs generalizing first with
  | nil => exact absurd rfl hne
  | cons head tail ih =>
    cases tail with
    | nil =>
      obtain ⟨-, rfl⟩ := h
      rfl
    | cons next tail =>
      rw [List.map_cons, List.map_cons, List.getLast?_cons_cons]
      exact ih h.2 (List.cons_ne_nil _ _)

end Leads

namespace Runner

/-- What each stage makes of the text that it is given. -/
inductive Performs (runner : Runner) (tables : ReferenceTables) (options : PipelineOptions) :
    StageRun → Prop
  | extract {code : String} {extraction : Extraction}
      (extracts : extractDirectives runner.scanner code = .ok extraction) :
      Performs runner tables options
        ⟨.extract, code, { code := extraction.code, logs := extraction.logs }⟩
  | transpile (code : String) :
      Performs runner tables options ⟨.transpile, code, runner.transpileStep options code⟩
  | resolve (code : String) :
      Performs runner tables options ⟨.resolve, code, resolveReferences tables code⟩
  | format {formatter : Formatter} (configured : runner.formatter = some formatter)
      (code : String) :
      Performs runner tables options ⟨.format, code, checkFormat formatter code⟩

/-- What can be there after some stages, each of which was given the code at that moment. -/
inductive Reaches (runner : Runner) (tables : ReferenceTables) (options : PipelineOptions)
    (code : String) : List StageRun → PipelineOutput → Prop
  | start : Reaches runner tables options code [] { code }
  | andThen {runs : List StageRun} {output : PipelineOutput} {stage : Stage} {step : StepOutput}
      (reaches : Reaches runner tables options code runs output)
      (performs : runner.Performs tables options ⟨stage, output.code, step⟩) :
      Reaches runner tables options code (runs ++ [⟨stage, output.code, step⟩])
        (output.andThen stage step)

/-- The stages of a run. -/
def stages (runner : Runner) (options : PipelineOptions) (extraction : Extraction) : List Stage :=
  [.extract] ++ (if options.compile then [.transpile] else []) ++
    if extraction.Skips then []
    else [.resolve] ++ if options.format && runner.formatter.isSome then [.format] else []

/-- The diagnostics of a run that belong to no stage. -/
def notes (runner : Runner) (options : PipelineOptions) (extraction : Extraction) :
    List Diagnostic :=
  match skipDirective? extraction.directives with
  | some directive => [skipNote directive]
  | none =>
    if options.format && runner.formatter.isNone then
      [.info "No formatter configured, format check skipped"]
    else []

variable {runner : Runner} {tables : ReferenceTables} {options : PipelineOptions} {code : String}
  {extraction : Extraction} {runs : List StageRun} {output : PipelineOutput}

/-- The record agrees with the stages after every stage. -/
theorem Reaches.recorded (h : Reaches runner tables options code runs output) :
    Leads code runs output.code ∧ output.stages = runs.map StageRun.trace ∧
      output.logs = runs.flatMap (·.output.logs) ∧
      ∀ run ∈ runs, runner.Performs tables options run := by
  induction h with
  | start => exact ⟨rfl, rfl, rfl, by simp⟩
  | @andThen runs output stage step _ performs ih =>
    obtain ⟨leads, hstages, hlogs, hperforms⟩ := ih
    refine ⟨Leads.append ⟨stage, output.code, step⟩ leads, ?_, ?_, ?_⟩
    · simp [PipelineOutput.andThen, hstages, StageRun.trace]
    · simp [PipelineOutput.andThen, hlogs]
    · intro run hmem
      rcases List.mem_append.1 hmem with hmem | hmem
      · exact hperforms run hmem
      · rwa [List.mem_singleton.1 hmem]

theorem exists_reaches_prepared (tables : ReferenceTables) (options : PipelineOptions)
    (extracts : extractDirectives runner.scanner code = .ok extraction) :
    ∃ runs, Reaches runner tables options code runs (runner.prepared options code extraction) ∧
      runs.map (·.stage) = [.extract] ++ if options.compile then [.transpile] else [] := by
  have performs : runner.Performs tables options
      ⟨.extract, code, { code := extraction.code, logs := extraction.logs }⟩ := .extract extracts
  have hextract := Reaches.start.andThen performs
  by_cases hcompile : options.compile = true
  · rw [prepared, if_pos hcompile, if_pos hcompile]
    exact ⟨_, hextract.andThen (.transpile extraction.code), rfl⟩
  · rw [prepared, if_neg hcompile, if_neg hcompile]
    exact ⟨_, hextract, rfl⟩

theorem exists_reaches_finish (h : Reaches runner tables options code runs output) :
    ∃ more last, Reaches runner tables options code (runs ++ more) last ∧
      more.map (·.stage) =
        (if options.format && runner.formatter.isSome then [.format] else []) ∧
      runner.finish options output = { last with
        logs := last.logs ++
          if options.format && runner.formatter.isNone then
            [.info "No formatter configured, format check skipped"]
          else [] } := by
  by_cases hformat : options.format = true
  · cases hformatter : runner.formatter with
    | some formatter =>
      refine ⟨_, _, h.andThen (.format hformatter output.code), by simp [hformat], ?_⟩
      simp [finish, hformat, hformatter]
    | none =>
      refine ⟨[], output, by simpa using h, by simp, ?_⟩
      simp [finish, hformat, hformatter, PipelineOutput.log]
  · refine ⟨[], output, by simpa using h, by simp [hformat], ?_⟩
    simp [finish, hformat]

/-- A run goes through its stages and then adds its notes. -/
theorem exists_reaches_runExtracted (tables : ReferenceTables) (options : PipelineOptions)
    (extracts : extractDirectives runner.scanner code = .ok extraction) :
    ∃ runs last, Reaches runner tables options code runs last ∧
      runs.map (·.stage) = runner.stages options extraction ∧
      runner.runExtracted tables options code extraction =
        { last with logs := last.logs ++ runner.notes options extraction } := by
  obtain ⟨runs, hprepared, hruns⟩ := exists_reaches_prepared tables options extracts
  cases hskip : skipDirective? extraction.directives with
  | some directive =>
    have hskips : extraction.Skips := skips_iff.2 ⟨directive, hskip⟩
    refine ⟨runs, _, hprepared, by simp [hruns, stages, hskips], ?_⟩
    rw [runExtracted_of_skip hskip, notes, hskip]
    rfl
  | none =>
    have hskips : ¬ extraction.Skips := skipDirective?_eq_none_iff.1 hskip
    obtain ⟨more, last, hlast, hmore, hfinish⟩ :=
      exists_reaches_finish (hprepared.andThen (.resolve _))
    refine ⟨_, last, hlast, by simp [hruns, hmore, stages, hskips], ?_⟩
    rw [runExtracted_of_continue hskip, hfinish, notes, hskip]

/-- The traces of a run are those of its stages. -/
theorem ids_runExtracted (tables : ReferenceTables) (options : PipelineOptions)
    (extracts : extractDirectives runner.scanner code = .ok extraction) :
    (runner.runExtracted tables options code extraction).stages.map (·.id) =
      (runner.stages options extraction).map Stage.name := by
  obtain ⟨runs, last, hreaches, hruns, heq⟩ := exists_reaches_runExtracted tables options extracts
  rw [heq, hreaches.recorded.2.1, ← hruns, List.map_map, List.map_map]
  rfl

theorem map_name_stages :
    (runner.stages options extraction).map Stage.name =
      ["extract.directives"] ++ (if options.compile then ["transpile.typescript"] else []) ++
        if extraction.Skips then []
        else ["resolve.references"] ++
          if options.format && runner.formatter.isSome then ["format.check"] else [] := by
  simp only [stages, List.map_append, apply_ite (List.map Stage.name)]
  rfl

/-- There is one note at most, and it says that something was left out. -/
theorem length_notes :
    (runner.notes options extraction).length =
        (if extraction.Skips ∨ options.format ∧ runner.formatter.isNone then 1 else 0) ∧
      ∀ note ∈ runner.notes options extraction, note.level = .info := by
  cases hskip : skipDirective? extraction.directives with
  | some directive =>
    have hskips : extraction.Skips := skips_iff.2 ⟨directive, hskip⟩
    simp [notes, hskip, hskips, skipNote]
  | none =>
    have hskips : ¬ extraction.Skips := skipDirective?_eq_none_iff.1 hskip
    simp only [notes, hskip, hskips, false_or, Bool.and_eq_true]
    split <;> simp [Diagnostic.info]

/-- The record of a run that gives a result. Its traces are those of the stages it has to go
through, each of which made of its text what that stage makes of it. The texts, and so their hashes,
lead from the source text to the result. The log has the diagnostics of the stages, as many as the
traces count, and behind them one note if the run ended early or had no formatter to ask. -/
theorem run_traces (h : runner.run tables options code = .ok output) :
    ∃ (extraction : Extraction) (runs : List StageRun) (notes : List Diagnostic),
      extractDirectives runner.scanner code = .ok extraction ∧
      output.stages.map (·.id) =
        ["extract.directives"] ++ (if options.compile then ["transpile.typescript"] else []) ++
          (if extraction.Skips then []
          else ["resolve.references"] ++
            if options.format && runner.formatter.isSome then ["format.check"] else []) ∧
      output.stages.head?.map (·.inHash) = some (hashText code) ∧
      (output.stages.IsChain fun earlier later => later.inHash = earlier.outHash) ∧
      output.stages.getLast?.map (·.outHash) = some (hashText output.code) ∧
      Leads code runs output.code ∧ output.stages = runs.map StageRun.trace ∧
      (∀ run ∈ runs, runner.Performs tables options run) ∧
      output.logs = (runs.map (·.output.logs)).flatten ++ notes ∧
      (runs.map (·.output.logs)).map List.length = output.stages.map (·.diagnostics) ∧
      notes.length =
        (if extraction.Skips ∨ options.format ∧ runner.formatter.isNone then 1 else 0) ∧
      ∀ note ∈ notes, note.level = .info := by
  obtain ⟨extraction, extracts, rfl⟩ := run_eq_ok_iff.1 h
  obtain ⟨runs, last, hreaches, hruns, heq⟩ := exists_reaches_runExtracted tables options extracts
  obtain ⟨leads, hstages, hlogs, hperforms⟩ := hreaches.recorded
  have hids := (ids_runExtracted tables options extracts).trans map_name_stages
  have hne : runs ≠ [] := by
    rintro rfl
    simp [stages] at hruns
  rw [heq] at hids ⊢
  refine ⟨extraction, runs, runner.notes options extraction, extracts, hids, ?_, ?_, ?_, leads,
    hstages, hperforms, ?_, ?_, length_notes⟩
  · rw [hstages]
    exact leads.head?_trace hne
  · rw [hstages]
    exact leads.isChain_trace
  · rw [hstages]
    exact leads.getLast?_trace hne
  · rw [hlogs, List.flatMap_def]
  · simp [hstages, StageRun.trace]

theorem run_traces_widgetSource :
    ∃ output, refusingRunner.run widgetTables { compile := true } widgetSource = .ok output ∧
      output.stages.map (·.id) =
        ["extract.directives", "transpile.typescript", "resolve.references", "format.check"] ∧
      output.stages.head?.map (·.inHash) = some (hashText widgetSource) ∧
      (output.stages.IsChain fun earlier later => later.inHash = earlier.outHash) ∧
      output.stages.getLast?.map (·.outHash) = some (hashText output.code) ∧
      ∃ blocks : List (List Diagnostic), output.logs = blocks.flatten ∧
        blocks.map List.length = output.stages.map (·.diagnostics) := by
  have hrun := run_widgetSource { compile := true }
  obtain ⟨extraction, runs, notes, extracts, hids, hfirst, hchain, hlast, -, -, -, hlogs, hcounts,
    hnotes, -⟩ := run_traces hrun
  obtain rfl : widgetExtraction = extraction :=
    Except.ok.inj (extractDirectives_widgetSource.symm.trans extracts)
  obtain rfl : notes = [] := List.eq_nil_of_length_eq_zero hnotes
  refine ⟨_, hrun, hids, hfirst, hchain, hlast, runs.map (·.output.logs), ?_, hcounts⟩
  rw [hlogs, List.append_nil]

end Runner

end WidgetPipeline
