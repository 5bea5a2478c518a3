import WidgetPipeline.Proofs.Export.Rewriting
import WidgetPipeline.Proofs.Pipeline.Converters

/-!
# The warning for a missing default export

A rewritten text has fewer phrases than the text itself, and so differs from it
(`toFunctionBody_eq_self_iff`). The warning for a missing default export is given on a condition of
its own, and still exactly where nothing is rewritten (`transpile_warning`).
-/

namespace WidgetPipeline

namespace Export

variable {start : List Char} {parts : List Part} {code : String}

/-- A text with phrases has fewer of them as a function body, so that it does not stay as it is. -/
theorem Splits.toFunctionBody_eq_self_iff (h : Splits code.toList start parts) :
    toFunctionBody code = code ↔ parts = [] := by
  constructor
  · intro hself
    obtain ⟨start', parts', hleft, hfewer⟩ := h.exists_fewer
    rw [hself] at hleft
    -- Both are the parts of one text, and so none can be gone.
    obtain ⟨-, rfl⟩ := h.unique hleft
    exact List.eq_nil_of_length_eq_zero (by omega)
  · rintro rfl
    exact h.toFunctionBody_of_nil

theorem toFunctionBody_eq_self_iff (code : String) :
    toFunctionBody code = code ↔ ¬ ExportsDefault code.toList := by
  obtain ⟨start, parts, h⟩ := exists_splits code.toList
  rw [h.toFunctionBody_eq_self_iff, h.exportsDefault_iff, Classical.not_not]

end Export

/-- Transpilation warns of a missing default export exactly where it leaves the text that it was
given as it is, which is where the text has none. The warning stands behind the failure of the
transpiler, and there is nothing else in the log. -/
theorem transpile_warning (transpiler : Transpiler) (projectConfig : Option Json) (code : String) :
    let result := transpiler code (transpilerOptions projectConfig)
    let given := textOr code result
    let output := transpile transpiler projectConfig code
    let failure :=
      (failureReport? "Something went wrong while transpiling TypeScript" result).toList.map
        Diagnostic.error
    let warning := Diagnostic.warn "No default export found"
    output.code = Export.toFunctionBody given ∧
      (output.code = given ↔ ¬ Export.ExportsDefault given.toList) ∧
      (warning ∈ output.logs ↔ output.code = given) ∧
      output.logs = failure ++ if output.code = given then [warning] else [] := by
  intro result given output failure warning
  have houtput := transpile_eq transpiler projectConfig code
  have hcode : output.code = Export.toFunctionBody given := congrArg StepOutput.code houtput
  have hself : output.code = given ↔ ¬ Export.ExportsDefault given.toList := by
    rw [hcode, Export.toFunctionBody_eq_self_iff]
  have hlogs : output.logs = failure ++ if output.code = given then [warning] else [] := by
    have hchecked : output.logs =
        failure ++ if Export.hasPhrase given.toList then [] else [warning] :=
      congrArg StepOutput.logs houtput
    have hphrase : Export.hasPhrase given.toList = true ↔ ¬ output.code = given := by
      rw [hself, Classical.not_not, Export.hasPhrase_iff]
    simp only [hchecked, hphrase, ite_not]
  have hfailure : warning ∉ failure := by
    intro hmem
    obtain ⟨message, -, heq⟩ := List.mem_map.1 hmem
    exact absurd (congrArg Diagnostic.level heq) (by decide : Level.error ≠ Level.warn)
  refine ⟨hcode, hself, ?_, hlogs⟩
  rw [hlogs, List.mem_append, or_iff_right hfailure]
  by_cases hgiven : output.code = given <;> simp [hgiven]

end WidgetPipeline
