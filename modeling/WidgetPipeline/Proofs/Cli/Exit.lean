import WidgetPipeline.Cli.Run
import WidgetPipeline.Proofs.Pipeline.Stages

/-!
# How a run of the command line ends

A run takes its steps in a fixed order, and the first that fails ends it with status 1, one report
and no output (`FailsFirst`). If none fails, the whole result of the pipeline is written, and only
then do its diagnostics decide between the other two statuses (`run_exit`).
-/

namespace WidgetPipeline

theorem Text.blankSeparated_go_eq_nil_iff {run cs : List Char} :
    blankSeparated.go run cs = [] ↔ run = [] ∧ ∀ c ∈ cs, isBlank c = true := by
  induction cs generalizing run with
  | nil => cases run <;> simp [blankSeparated.go]
  | cons c cs ih =>
    rw [blankSeparated.go]
    cases hblank : isBlank c <;> cases run <;> simp [ih, hblank]

/-- Text that is nothing but white space names no program. -/
theorem External.CommandLine.ofText?_eq_none_iff {text : String} :
    ofText? text = none ↔ ∀ c ∈ text.toList, Text.isBlank c = true := by
  have hwords : Text.blankSeparated.go [] text.toList = [] ↔ _ :=
    Text.blankSeparated_go_eq_nil_iff
  rw [ofText?, Text.blankSeparated]
  cases hcut : Text.blankSeparated.go [] text.toList with
  | nil => simpa [hcut] using hwords
  | cons word words => simpa [hcut] using hwords

namespace Cli

open External (CommandLine)

/-- What a run does, in this order, before it has a result. -/
inductive Step where
  | source
  | tables
  | project
  | transpiler
  | formatter
  | scan

/-- The place of the step among the others. -/
def Step.place : Step → Nat
  | .source => 0
  | .tables => 1
  | .project => 2
  | .transpiler => 3
  | .formatter => 4
  | .scan => 5

theorem Step.place_lt_six (step : Step) : step.place < 6 := by
  cases step <;> decide

theorem Step.eq_of_place_eq {step other : Step} (h : step.place = other.place) : step = other := by
  cases step <;> cases other <;> simp [place] at h <;> rfl

namespace Arguments

/-- The step fails, and how. The source text is read from the standard input or a file. Tables and
the project's document are read from files if these are named, a command is cut into words if it is
named, and the source text is scanned for comments. -/
inductive Fails (arguments : Arguments) (world : Surroundings) : Step → RunError → Prop
  | standardInput {error : Text.Utf8.DecodeError} (dash : arguments.input = "-")
      (fails : world.standardInput = .error error) :
      Fails arguments world .source (.standardInput error)
  | sourceFile {error : FileError} (named : arguments.input ≠ "-")
      (fails : world.fileText arguments.input = .error error) :
      Fails arguments world .source (.sourceFile arguments.input error)
  | tables {path : String} {error : PipelineError} (named : arguments.params = some path)
      (fails : ReferenceTables.load world.fileText path = .error error) :
      Fails arguments world .tables (.tables path error)
  | projectFile {path : String} {error : FileError} (named : arguments.tsconfig = some path)
      (fails : world.fileText path = .error error) :
      Fails arguments world .project (.projectFile path error)
  | project {path text : String} (named : arguments.tsconfig = some path)
      (reads : world.fileText path = .ok text) (malformed : Json.read? text = none) :
      Fails arguments world .project (.project path)
  | transpiler {text : String} (named : arguments.transpiler = some text)
      (blank : ∀ c ∈ text.toList, Text.isBlank c = true) :
      Fails arguments world .transpiler (.emptyCommand "transpiler")
  | formatter {text : String} (named : arguments.formatter = some text)
      (blank : ∀ c ∈ text.toList, Text.isBlank c = true) :
      Fails arguments world .formatter (.emptyCommand "formatter")
  | scan {code : String} {error : ScanError} (reads : arguments.source world = .ok code)
      (fails : Script.scanComments code = .error error) :
      Fails arguments world .scan (.pipeline (.commentScan error))

/-- No step before the place fails. -/
def ClearBefore (arguments : Arguments) (world : Surroundings) (place : Nat) : Prop :=
  ∀ step error, step.place < place → ¬ Fails arguments world step error

/-- The step fails, and no step before it does. -/
def FailsFirst (arguments : Arguments) (world : Surroundings) (step : Step) (error : RunError) :
    Prop :=
  Fails arguments world step error ∧ ClearBefore arguments world step.place

variable {arguments : Arguments} {world : Surroundings} {step other : Step} {error error' : RunError}

theorem ClearBefore.zero : ClearBefore arguments world 0 := by
  intro step error hlt
  exact absurd hlt (Nat.not_lt_zero _)

theorem ClearBefore.next (clear : ClearBefore arguments world step.place)
    (passes : ∀ error, ¬ Fails arguments world step error) :
    ClearBefore arguments world (step.place + 1) := by
  intro other error hlt
  rcases Nat.lt_succ_iff_lt_or_eq.1 hlt with hlt | heq
  · exact clear other error hlt
  · rw [Step.eq_of_place_eq heq]
    exact passes error

/-! ## The steps one by one -/

theorem source_eq_error_iff :
    arguments.source world = .error error ↔ Fails arguments world .source error := by
  unfold source
  constructor
  · intro h
    split at h
    · rename_i hdash
      cases hread : world.standardInput with
      | ok text => simp [hread, orFail] at h
      | error cause =>
        obtain rfl : RunError.standardInput cause = error := by simpa [hread, orFail] using h
        exact .standardInput hdash hread
    · rename_i hnamed
      cases hread : world.fileText arguments.input with
      | ok text => simp [hread, orFail] at h
      | error cause =>
        obtain rfl : RunError.sourceFile arguments.input cause = error := by
          simpa [hread, orFail] using h
        exact .sourceFile hnamed hread
  · intro h
    cases h with
    | standardInput hdash hread => simp [hdash, hread, orFail]
    | sourceFile hnamed hread => simp [hnamed, hread, orFail]

theorem tables_eq_error_iff :
    arguments.tables world = .error error ↔ Fails arguments world .tables error := by
  unfold tables
  constructor
  · intro h
    cases hnamed : arguments.params with
    | none => simp [hnamed] at h
    | some path =>
      cases hload : ReferenceTables.load world.fileText path with
      | ok tables => simp [hnamed, hload, orFail] at h
      | error cause =>
        obtain rfl : RunError.tables path cause = error := by
          simpa [hnamed, hload, orFail] using h
        exact .tables hnamed hload
  · intro h
    cases h with
    | tables hnamed hload => simp [hnamed, hload, orFail]

theorem project_eq_error_iff :
    arguments.project world = .error error ↔ Fails arguments world .project error := by
  unfold project
  constructor
  · intro h
    cases hnamed : arguments.tsconfig with
    | none => simp [hnamed] at h
    | some path =>
      cases hread : world.fileText path with
      | error cause =>
        obtain rfl : RunError.projectFile path cause = error := by
          simpa [hnamed, hread, orFail, bind, Except.bind] using h
        exact .projectFile hnamed hread
      | ok text =>
        cases hvalue : Json.read? text with
        | none =>
          obtain rfl : RunError.project path = error := by
            simpa [hnamed, hread, hvalue, orFail, bind, Except.bind, throw, throwThe,
              MonadExceptOf.throw] using h
          exact .project hnamed hread hvalue
        | some value =>
          simp [hnamed, hread, hvalue, orFail, bind, Except.bind, pure, Except.pure] at h
  · intro h
    cases h with
    | projectFile hnamed hread => simp [hnamed, hread, orFail, bind, Except.bind]
    | project hnamed hread hvalue =>
      simp [hnamed, hread, hvalue, orFail, bind, Except.bind, throw, throwThe, MonadExceptOf.throw]

theorem commandOf_eq_error_iff {option : String} {command : Option String} :
    commandOf option command = .error error ↔
      ∃ text, command = some text ∧ (∀ c ∈ text.toList, Text.isBlank c = true) ∧
        error = .emptyCommand option := by
  simp only [← CommandLine.ofText?_eq_none_iff]
  cases command with
  | none => simp [commandOf]
  | some text => cases hwords : CommandLine.ofText? text <;> simp [commandOf, hwords, eq_comm]

theorem commandOf_transpiler_eq_error_iff :
    commandOf "transpiler" arguments.transpiler = .error error ↔
      Fails arguments world .transpiler error := by
  rw [commandOf_eq_error_iff]
  constructor
  · rintro ⟨text, hnamed, hblank, rfl⟩
    exact .transpiler hnamed hblank
  · intro h
    cases h with
    | transpiler hnamed hblank => exact ⟨_, hnamed, hblank, rfl⟩

theorem commandOf_formatter_eq_error_iff :
    commandOf "formatter" arguments.formatter = .error error ↔
      Fails arguments world .formatter error := by
  rw [commandOf_eq_error_iff]
  constructor
  · rintro ⟨text, hnamed, hblank, rfl⟩
    exact .formatter hnamed hblank
  · intro h
    cases h with
    | formatter hnamed hblank => exact ⟨_, hnamed, hblank, rfl⟩

theorem pipeline_eq_error_iff {runner : Runner} {tables : ReferenceTables}
    {options : PipelineOptions} {code : String} (hsource : arguments.source world = .ok code)
    (hscanner : runner.scanner = Script.scanComments) :
    orFail .pipeline (runner.run tables options code) = .error error ↔
      Fails arguments world .scan error := by
  constructor
  · intro h
    cases hrun : runner.run tables options code with
    | ok output => simp [hrun, orFail] at h
    | error cause =>
      obtain ⟨scanError, hscan, rfl⟩ := Runner.run_eq_error_iff.1 hrun
      obtain rfl : RunError.pipeline (.commentScan scanError) = error := by
        simpa [hrun, orFail] using h
      exact .scan hsource (hscanner ▸ hscan)
  · intro h
    cases h with
    | @scan read scanError hreads hscan =>
      obtain rfl : code = read := Except.ok.inj (hsource.symm.trans hreads)
      have hrun : runner.run tables options code = .error (.commentScan scanError) :=
        Runner.run_eq_error_iff.2 ⟨scanError, hscanner ▸ hscan, rfl⟩
      rw [hrun, orFail]

theorem Fails.unique (h : Fails arguments world step error)
    (h' : Fails arguments world step error') : error = error' := by
  cases step with
  | source =>
    exact Except.error.inj ((source_eq_error_iff.2 h).symm.trans (source_eq_error_iff.2 h'))
  | tables =>
    exact Except.error.inj ((tables_eq_error_iff.2 h).symm.trans (tables_eq_error_iff.2 h'))
  | project =>
    exact Except.error.inj ((project_eq_error_iff.2 h).symm.trans (project_eq_error_iff.2 h'))
  | transpiler =>
    cases h with
    | transpiler => cases h' with
      | transpiler => rfl
  | formatter =>
    cases h with
    | formatter => cases h' with
      | formatter => rfl
  | scan =>
    cases h with
    | @scan code cause hreads hscan =>
      cases h' with
      | @scan code' cause' hreads' hscan' =>
        obtain rfl : code = code' := Except.ok.inj (hreads.symm.trans hreads')
        obtain rfl : cause = cause' := Except.error.inj (hscan.symm.trans hscan')
        rfl

/-- There is at most one step that fails first. -/
theorem FailsFirst.unique (h : FailsFirst arguments world step error)
    (h' : FailsFirst arguments world other error') : error = error' := by
  have hle : step.place ≤ other.place :=
    Nat.le_of_not_lt fun hlt => h.2 other error' hlt h'.1
  have hge : other.place ≤ step.place :=
    Nat.le_of_not_lt fun hlt => h'.2 step error hlt h.1
  obtain rfl : step = other := Step.eq_of_place_eq (Nat.le_antisymm hle hge)
  exact h.1.unique h'.1

/-! ## All of them -/

theorem not_of_eq_ok {α : Type} {value : α} {result : Except RunError α} {P : RunError → Prop}
    (h : ∀ {error}, result = .error error ↔ P error) (hok : result = .ok value) (error : RunError) :
    ¬ P error := by
  intro hP
  rw [h.2 hP] at hok
  cases hok

/-- The two commands are looked at one after the other. -/
theorem runner_cases (clear : ClearBefore arguments world Step.transpiler.place) :
    (∃ step error, FailsFirst arguments world step error ∧
      arguments.runner world.host = .error error) ∨
    (∃ runner, arguments.runner world.host = .ok runner ∧ runner.scanner = Script.scanComments) ∧
      ClearBefore arguments world Step.scan.place := by
  unfold runner
  cases htranspiler : commandOf "transpiler" arguments.transpiler with
  | error error =>
    exact .inl ⟨.transpiler, error, ⟨commandOf_transpiler_eq_error_iff.1 htranspiler, clear⟩, rfl⟩
  | ok transpiler =>
    have clear : ClearBefore arguments world Step.formatter.place :=
      clear.next (not_of_eq_ok commandOf_transpiler_eq_error_iff htranspiler)
    cases hformatter : commandOf "formatter" arguments.formatter with
    | error error =>
      exact .inl ⟨.formatter, error, ⟨commandOf_formatter_eq_error_iff.1 hformatter, clear⟩, rfl⟩
    | ok formatter =>
      exact .inr ⟨⟨_, rfl, rfl⟩,
        clear.next (not_of_eq_ok commandOf_formatter_eq_error_iff hformatter)⟩

/-- The output is that of the pipeline on what the arguments name. -/
def Yields (arguments : Arguments) (world : Surroundings) (output : PipelineOutput) : Prop :=
  ∃ code tables project runner, arguments.source world = .ok code ∧
    arguments.tables world = .ok tables ∧ arguments.project world = .ok project ∧
    arguments.runner world.host = .ok runner ∧
    runner.run tables (arguments.options project) code = .ok output

/-- Either a step fails, and the first that does gives the error, or no step fails and the pipeline
gives a result. -/
theorem transform_cases (arguments : Arguments) (world : Surroundings) :
    (∃ step error, FailsFirst arguments world step error ∧
      arguments.transform world = .error error) ∨
    (∀ step error, ¬ Fails arguments world step error) ∧
      ∃ output, Yields arguments world output ∧ arguments.transform world = .ok output := by
  unfold transform
  cases hsource : arguments.source world with
  | error error => exact .inl ⟨.source, error, ⟨source_eq_error_iff.1 hsource, .zero⟩, rfl⟩
  | ok code =>
  have clear : ClearBefore arguments world Step.tables.place :=
    ClearBefore.next (.zero : ClearBefore arguments world Step.source.place)
      (not_of_eq_ok source_eq_error_iff hsource)
  cases htables : arguments.tables world with
  | error error => exact .inl ⟨.tables, error, ⟨tables_eq_error_iff.1 htables, clear⟩, rfl⟩
  | ok tables =>
  have clear : ClearBefore arguments world Step.project.place :=
    clear.next (not_of_eq_ok tables_eq_error_iff htables)
  cases hproject : arguments.project world with
  | error error => exact .inl ⟨.project, error, ⟨project_eq_error_iff.1 hproject, clear⟩, rfl⟩
  | ok project =>
  have clear : ClearBefore arguments world Step.transpiler.place :=
    clear.next (not_of_eq_ok project_eq_error_iff hproject)
  rcases runner_cases clear with ⟨step, error, hfirst, hrunner⟩ | ⟨⟨runner, hrunner, hscanner⟩, clear⟩
  · refine .inl ⟨step, error, hfirst, ?_⟩
    rw [hrunner]
    rfl
  cases hrun : runner.run tables (arguments.options project) code with
  | error error =>
    have hreport : orFail .pipeline (runner.run tables (arguments.options project) code) =
        .error (.pipeline error) := by rw [hrun, orFail]
    refine .inl ⟨.scan, .pipeline error,
      ⟨(pipeline_eq_error_iff hsource hscanner).1 hreport, clear⟩, ?_⟩
    simp only [hrunner, bind, Except.bind, hrun, orFail]
  | ok output =>
    have hreport : orFail .pipeline (runner.run tables (arguments.options project) code) =
        .ok output := by rw [hrun, orFail]
    have passes := not_of_eq_ok (pipeline_eq_error_iff hsource hscanner) hreport
    refine .inr ⟨fun step error => clear.next passes step error step.place_lt_six, output,
      ⟨code, tables, project, runner, hsource, htables, hproject, hrunner, hrun⟩, ?_⟩
    simp only [hrunner, bind, Except.bind, hrun, orFail]

/-! ## Status and texts -/

theorem report_eq (arguments : Arguments) (output : PipelineOutput) :
    arguments.report output =
      { status :=
          if arguments.denyErrors = true ∧ ∃ log ∈ output.logs, log.level = .error then 2 else 0
        output := (if arguments.json then output.toJson.indented else output.code) ++ "\n"
        errors :=
          if arguments.json then ""
          else String.join (output.logs.map fun log => log.display ++ "\n") } := by
  have hdenied : (arguments.denyErrors && output.hasErrors) = true ↔
      arguments.denyErrors = true ∧ ∃ log ∈ output.logs, log.level = .error := by
    simp [PipelineOutput.hasErrors, anyError]
  unfold report
  simp only [hdenied]
  cases arguments.json <;> rfl

/-- How a run of the command line ends. Its status is 1 if and only if one of its steps fails. Then
the first step that fails, in the order of the steps, is reported, once and with nothing written to
the output. Otherwise the whole result of the pipeline is written: as one document and nothing else,
or as the code and, apart from it, the lines of the log. The status is then 2 if errors are denied
and one is in the log, and 0 if not; denying errors changes nothing of what is written. -/
theorem run_exit (arguments : Arguments) (world : Surroundings) :
    ((arguments.run world).status = 1 ↔ ∃ step error, Fails arguments world step error) ∧
    ((∃ step error, Fails arguments world step error) →
      ∃ step error, FailsFirst arguments world step error) ∧
    (∀ step error, FailsFirst arguments world step error →
      arguments.run world =
        { status := 1, output := "", errors := "error: " ++ error.message ++ "\n" }) ∧
    ((∀ step error, ¬ Fails arguments world step error) →
      ∃ output, Yields arguments world output ∧
        arguments.run world =
          { status :=
              if arguments.denyErrors = true ∧ ∃ log ∈ output.logs, log.level = .error then 2 else 0
            output := (if arguments.json then output.toJson.indented else output.code) ++ "\n"
            errors :=
              if arguments.json then ""
              else String.join (output.logs.map fun log => log.display ++ "\n") }) ∧
    ∀ denyErrors,
      (Arguments.run { arguments with denyErrors } world).output = (arguments.run world).output ∧
      (Arguments.run { arguments with denyErrors } world).errors = (arguments.run world).errors := by
  have hdeny : ∀ denyErrors,
      (Arguments.run { arguments with denyErrors } world).output = (arguments.run world).output ∧
      (Arguments.run { arguments with denyErrors } world).errors =
        (arguments.run world).errors := by
    intro denyErrors
    have htransform : Arguments.transform { arguments with denyErrors } world =
        arguments.transform world := rfl
    rw [run, run, htransform]
    cases arguments.transform world with
    | error error => exact ⟨rfl, rfl⟩
    | ok output => simp [report_eq]
  rcases transform_cases arguments world with ⟨step, error, hfirst, htransform⟩ |
    ⟨hnone, output, hyields, htransform⟩
  · have hfails : ∃ step error, Fails arguments world step error := ⟨step, error, hfirst.1⟩
    have hrun : arguments.run world =
        { status := 1, output := "", errors := "error: " ++ error.message ++ "\n" } := by
      rw [run, htransform]
      rfl
    refine ⟨⟨fun _ => hfails, fun _ => by rw [hrun]⟩, fun _ => ⟨step, error, hfirst⟩, ?_, ?_, hdeny⟩
    · intro other error' hfirst'
      rw [hrun, hfirst.unique hfirst']
    · intro hnone
      exact absurd hfirst.1 (hnone step error)
  · have hrun : arguments.run world = arguments.report output := by
      rw [run, htransform]
    have hnot : ¬ ∃ step error, Fails arguments world step error := by
      rintro ⟨step, error, hfails⟩
      exact hnone step error hfails
    refine ⟨⟨?_, fun hfails => absurd hfails hnot⟩, fun hfails => absurd hfails hnot, ?_, ?_, hdeny⟩
    · intro hstatus
      rw [hrun, report_eq] at hstatus
      simp only at hstatus
      split at hstatus <;> cases hstatus
    · intro step error hfirst
      exact absurd hfirst.1 (hnone step error)
    · intro _
      exact ⟨output, hyields, hrun.trans (report_eq arguments output)⟩

end Arguments

end Cli

end WidgetPipeline
