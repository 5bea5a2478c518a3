import WidgetPipeline.External.Converter
import WidgetPipeline.Proofs.Text.Utf8

/-!
# What a program makes of a text

A program that is a converter is called once, and how that call goes decides what it makes of the text
(`converts_convert`): the text it wrote if it ended well, and else an error, which says whether it could
not be started, what it complained about, how it ended, or where its output is no text. The call itself
reaches the host unless a text of it holds the character with the code 0.
-/

namespace WidgetPipeline.External

/-! ## The call -/

section Call

variable {host : Host} {invocation : Invocation}

theorem Host.call_eq (h : ∀ text ∈ invocation.texts, '\x00' ∉ text.toList) :
    host.call invocation = host invocation := by
  rw [Host.call, if_neg]
  simpa using h

end Call

/-! ## The result -/

theorem ExitStatus.success_iff {status : ExitStatus} : status.success = true ↔ status = .code 0 :=
  decide_eq_true_iff

/-- What a converter gives, after how the call of its program went. -/
inductive Converts (program : String) :
    Except StartError Outcome → Except ConverterError String → Prop where
  | unstarted (error : StartError) :
      Converts program (.error error)
        (.error ⟨s!"failed to start \x60{program}\x60: {error.message}"⟩)
  | complaint {outcome : Outcome} {words : List Char} (failed : outcome.status ≠ .code 0)
      (errors : Text.trim (Text.Utf8.decodeLossy outcome.errors).toList = words)
      (nonblank : words ≠ []) :
      Converts program (.ok outcome) (.error ⟨String.ofList words⟩)
  | silence {outcome : Outcome} (failed : outcome.status ≠ .code 0)
      (errors : Text.trim (Text.Utf8.decodeLossy outcome.errors).toList = []) :
      Converts program (.ok outcome)
        (.error ⟨s!"\x60{program}\x60 exited with {outcome.status.message}"⟩)
  | garbled {outcome : Outcome} {error : Text.Utf8.DecodeError} (ended : outcome.status = .code 0)
      (output : Text.Utf8.decode outcome.output = .error error) :
      Converts program (.ok outcome)
        (.error ⟨s!"\x60{program}\x60 produced invalid UTF-8: {error.message}"⟩)
  | text {outcome : Outcome} {text : String} (ended : outcome.status = .code 0)
      (output : Text.Utf8.decode outcome.output = .ok text) :
      Converts program (.ok outcome) (.ok text)

variable {program : String} {call : Except StartError Outcome}
  {result result' : Except ConverterError String}

/-- How the call went leaves no choice of the result. -/
theorem Converts.unique (h : Converts program call result) (h' : Converts program call result') :
    result = result' := by
  cases h with
  | unstarted error =>
    cases h'
    rfl
  | complaint failed errors nonblank =>
    cases h' with
    | complaint _ errors' => rw [← errors, errors']
    | silence _ errors' => exact absurd (errors.symm.trans errors') nonblank
    | garbled ended => exact absurd ended failed
    | text ended => exact absurd ended failed
  | silence failed errors =>
    cases h' with
    | complaint _ errors' nonblank => exact absurd (errors'.symm.trans errors) nonblank
    | silence => rfl
    | garbled ended => exact absurd ended failed
    | text ended => exact absurd ended failed
  | garbled ended output =>
    cases h' with
    | complaint failed => exact absurd ended failed
    | silence failed => exact absurd ended failed
    | garbled _ output' =>
      obtain rfl := Except.error.inj (output.symm.trans output')
      rfl
    | text _ output' => cases output.symm.trans output'
  | text ended output =>
    cases h' with
    | complaint failed => exact absurd ended failed
    | silence failed => exact absurd ended failed
    | garbled _ output' => cases output.symm.trans output'
    | text _ output' =>
      obtain rfl := Except.ok.inj (output.symm.trans output')
      rfl

/-- A converter calls its program with its arguments, the variables and the bytes of the text, and
gives what this call decides. -/
theorem CommandLine.converts_convert (host : Host) (command : CommandLine)
    (environment : List (String × String)) (code : String) :
    Converts command.program
      (host.call
        { program := command.program
          arguments := command.arguments
          environment
          input := Text.Utf8.encode code })
      (command.convert host environment code) := by
  simp only [convert]
  generalize host.call _ = call
  cases call with
  | error error => exact .unstarted error
  | ok outcome =>
    by_cases ended : outcome.status = .code 0
    · have hsuccess : outcome.status.success = true := ExitStatus.success_iff.2 ended
      simp only [hsuccess, Bool.not_true, Bool.false_eq_true, if_false]
      cases output : Text.Utf8.decode outcome.output with
      | error error => exact .garbled ended output
      | ok text => exact .text ended output
    · have hsuccess : ¬ outcome.status.success = true := mt ExitStatus.success_iff.1 ended
      simp only [hsuccess, Bool.not_false, if_true, failureMessage]
      by_cases errors : Text.trim (Text.Utf8.decodeLossy outcome.errors).toList = []
      · simp only [errors, List.isEmpty_nil, if_true]
        exact .silence ended errors
      · rw [if_neg (by simpa using errors)]
        exact .complaint ended rfl errors

end WidgetPipeline.External
