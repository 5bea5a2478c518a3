import WidgetPipeline.Converter

/-!
# Steps that ask a converter

Where a converter refuses a text, that is one failure in the log, and the step goes on with the text
that it was given (`transpile_eq`, `logs_checkFormat`).
-/

namespace WidgetPipeline

/-- What is reported of a converter that gave no text. -/
def ConverterError.report (error : ConverterError) (general : String) : String :=
  if error.message.isEmpty then general else error.message

/-- What is reported of the failure of a converter, if it failed. -/
def failureReport? (general : String) : Except ConverterError String → Option String
  | .ok _ => none
  | .error error => some (error.report general)

theorem failureReport?_isSome_iff {general : String} {result : Except ConverterError String} :
    (failureReport? general result).isSome ↔ ∃ error, result = .error error := by
  cases result <;> simp [failureReport?]

/-- The text that a converter gave, or another in its place. -/
def textOr (code : String) : Except ConverterError String → String
  | .ok text => text
  | .error _ => code

theorem transpile_eq (transpiler : Transpiler) (projectConfig : Option Json) (code : String) :
    transpile transpiler projectConfig code =
      let result := transpiler code (transpilerOptions projectConfig)
      { code := Export.toFunctionBody (textOr code result)
        logs :=
          (failureReport? "Something went wrong while transpiling TypeScript" result).toList.map
            .error ++
          if Export.hasPhrase (textOr code result).toList then []
          else [.warn "No default export found"] } := by
  rw [transpile]
  cases transpiler code (transpilerOptions projectConfig) <;> rfl

theorem logs_checkFormat (formatter : Formatter) (code : String) :
    (checkFormat formatter code).logs =
      (failureReport? "Something went wrong while formatting"
        (formatter code formatParser)).toList.map .error := by
  rw [checkFormat]
  cases formatter code formatParser <;> rfl

/-- The format check leaves the code alone. -/
@[simp] theorem checkFormat_code (formatter : Formatter) (code : String) :
    (checkFormat formatter code).code = code := by
  rw [checkFormat]
  cases formatter code formatParser <;> rfl

end WidgetPipeline
