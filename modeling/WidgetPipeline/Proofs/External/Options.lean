import WidgetPipeline.Proofs.External.Conversion
import WidgetPipeline.Proofs.Json.Printable
import WidgetPipeline.Proofs.Json.Values
import WidgetPipeline.Proofs.Text.ByteOrder

/-!
# What a transpiler is told

The options for a transpiler are the defaults and over them those of the project's document
(`get?_transpilerOptions`). A program that is a transpiler is called with one variable, which holds a
JSON text that reads as just these options, whatever the project's document holds (`transpiler_told`).
-/

namespace WidgetPipeline

open Json (Integral Kept)

/-! ## The options of a project -/

/-- The `compilerOptions` of the project's document, if it is an object that has them. -/
def compilerOptions? (config : Option Json) : Option Json := config.bind (·.get? "compilerOptions")

section Options

variable {config : Option Json} {field : String × Json}

theorem mem_transpilerOptions (h : field ∈ (transpilerOptions config).toList) :
    field ∈ defaultTranspilerOptions.toList ∨
      ∃ fields, compilerOptions? config = some (.object fields) ∧ field ∈ fields := by
  unfold transpilerOptions at h
  split at h
  · rename_i fields hfields
    exact (OrderedMap.mem_foldl_insert h).imp_right fun hmem => ⟨fields, hfields, hmem⟩
  · exact .inl h

/-- An option has the value that the project's document gives it, or else its default. -/
theorem get?_transpilerOptions
    (hascending : ∀ fields, compilerOptions? config = some (.object fields) →
      Entries.Ascending fields) (key : String) :
    (transpilerOptions config).get? key =
      ((compilerOptions? config).bind (·.get? key)).or (defaultTranspilerOptions.get? key) := by
  unfold transpilerOptions
  split
  · rename_i fields hfields
    rw [OrderedMap.get?_foldl_insert _ (hascending fields hfields), compilerOptions?, hfields]
    rfl
  · rename_i hother
    have hnone : (compilerOptions? config).bind (·.get? key) = none := by
      rw [Option.bind_eq_none_iff]
      intro value hvalue
      cases value with
      | object fields => exact absurd hvalue (hother fields)
      | _ => rfl
    rw [hnone, Option.none_or]

/-- A default has no numbers, and at most one list. -/
theorem kept_default (h : field ∈ defaultTranspilerOptions.toList) :
    Kept 1 field.2 ∧ field.2.Integral := by
  have hmem := OrderedMap.mem_of_mem_ofList h
  simp only [List.mem_cons, List.not_mem_nil, or_false] at hmem
  rcases hmem with rfl | rfl | rfl | rfl
  · exact ⟨.bool, .bool⟩
  · exact ⟨.bool, .bool⟩
  · exact ⟨.string, .string⟩
  · exact ⟨.array (by simp [Kept.string]), .array (by simp)⟩

end Options

section Kept

variable {config : Option Json} {depth : Nat}

theorem kept_compilerOptions (hkept : ∀ value ∈ config, Kept depth value)
    (hintegral : ∀ value ∈ config, value.Integral) {options : Json}
    (h : compilerOptions? config = some options) : Kept depth options ∧ options.Integral := by
  obtain ⟨value, hvalue, hget⟩ := Option.bind_eq_some_iff.1 h
  refine ⟨(hkept value hvalue).get? hget, ?_⟩
  obtain ⟨fields, rfl, hmem⟩ := (hkept value hvalue).exists_field hget
  exact Json.integral_object_iff.1 (hintegral _ hvalue) _ hmem

/-- The options nest no deeper than the project's document, and their numbers are as plain. -/
theorem kept_transpilerOptions (hkept : ∀ value ∈ config, Kept (depth + 2) value)
    (hintegral : ∀ value ∈ config, value.Integral) :
    Kept (depth + 2) (transpilerOptions config).toJson ∧
      (transpilerOptions config).toJson.Integral := by
  have heach : ∀ field ∈ (transpilerOptions config).toList,
      Kept (depth + 1) field.2 ∧ field.2.Integral := by
    intro field hfield
    rcases mem_transpilerOptions hfield with hdefault | ⟨fields, hfields, hmem⟩
    · exact (kept_default hdefault).imp_left fun h => h.mono (Nat.le_add_left 1 depth)
    · obtain ⟨hobject, hnumbers⟩ := kept_compilerOptions hkept hintegral hfields
      cases hobject with
      | object _ each => exact ⟨each field hmem, Json.integral_object_iff.1 hnumbers field hmem⟩
  exact ⟨.object (transpilerOptions config).ascending fun field hfield => (heach field hfield).1,
    .object fun field hfield => (heach field hfield).2⟩

end Kept

/-! ## The text of the options -/

namespace External.CommandLine

/-- The call of a program that is a transpiler, with the text that tells it its options. -/
def transpilerCall (command : CommandLine) (options code : String) : Invocation where
  program := command.program
  arguments := command.arguments
  environment := [("BOSW_TRANSPILER_OPTIONS", options)]
  input := Text.Utf8.encode code

variable {command : CommandLine} {text : String}

/-- The call reaches the host, if no word of the command holds the character that ends texts. -/
theorem call_transpilerCall (host : Host) (code : String) (htext : '\x00' ∉ text.toList)
    (hwords : ∀ word ∈ command.program :: command.arguments, '\x00' ∉ word.toList) :
    host.call (command.transpilerCall text code) = host (command.transpilerCall text code) := by
  refine Host.call_eq fun other hmem => ?_
  have hvariable : '\x00' ∉ "BOSW_TRANSPILER_OPTIONS".toList := by decide
  simp only [Invocation.texts, transpilerCall, List.flatMap_cons, List.flatMap_nil,
    List.append_nil, List.mem_append, List.mem_cons, List.not_mem_nil, or_false] at hmem hwords
  rcases hmem with hword | rfl | rfl
  · exact hwords other hword
  · exact hvariable
  · exact htext

/-- A transpiler is told the options and nothing else. For a project without a document, or with one
whose numbers are integers, it is called with a single variable, which holds a JSON text of an object:
its keys stand there once each, in the order of their bytes, and each has the value that the project's
document gives it, or else its default. No character of the text ends it early, and the call reaches the
program if its own words can. -/
theorem transpiler_told {config : Option Json}
    (hread : ∀ value ∈ config,
      ∃ document : Json.Document, document.toJson? Json.Document.maxDepth = some value)
    (hintegral : ∀ value ∈ config, value.Integral) :
    ∃ text fields,
      (∀ (host : Host) (command : CommandLine) (code : String),
        Converts command.program (host.call (command.transpilerCall text code))
            (transpiler host command code (transpilerOptions config)) ∧
          ((∀ word ∈ command.program :: command.arguments, '\x00' ∉ word.toList) →
            host.call (command.transpilerCall text code) =
              host (command.transpilerCall text code))) ∧
      '\x00' ∉ text.toList ∧
      Json.Document.read? text = some (.ofJson (.object fields)) ∧
      Json.read? text = some (.object fields) ∧
      (fields.map (·.1)).Pairwise (fun key later =>
        Text.Utf8.encode key < Text.Utf8.encode later) ∧
      ∀ key, (Json.object fields).get? key =
        ((compilerOptions? config).bind (·.get? key)).or (defaultTranspilerOptions.get? key) := by
  have hkept : ∀ value ∈ config, Kept (125 + 2) value :=
    fun value hvalue => Json.kept_iff_exists_toJson?.2 (hread value hvalue)
  obtain ⟨hoptions, hnumbers⟩ := kept_transpilerOptions hkept hintegral
  have htext : '\x00' ∉ (transpilerOptions config).toJson.compact.toList := by
    intro hmem
    rw [Json.compact, String.toList_ofList] at hmem
    exact absurd (Json.printable_compactChars hnumbers _ hmem) (by decide)
  refine ⟨(transpilerOptions config).toJson.compact, (transpilerOptions config).toList,
    fun host command code => ⟨command.converts_convert host _ code,
      call_transpilerCall host code htext⟩,
    htext, Json.read?_compact hnumbers, hoptions.read?_compact hnumbers, ?_, ?_⟩
  · rw [List.pairwise_map]
    exact (transpilerOptions config).ascending.imp Text.encode_lt_of_compare_eq_lt
  · refine get?_transpilerOptions fun fields hfields => ?_
    cases (kept_compilerOptions hkept hintegral hfields).1 with
    | object ascending _ => exact ascending

/-- A project's document that sets one of the defaults and nests lists and objects in another option.
-/
def nestedProject : Json :=
  .object [
    ("compilerOptions", .object [
      ("jsxRuntime", .string "classic"),
      ("paths", .object [("é\n", .array [.number (.integer (-1)), .null])])]),
    ("include", .array [])]

theorem kept_nestedProject : Kept Json.Document.maxDepth nestedProject := by
  have hpaths : Kept 2 (.object [("é\n", .array [.number (.integer (-1)), .null])]) :=
    .object (by decide) (by simp [Kept.array, Kept.number, Kept.null])
  have hoptions : Kept 3 (.object [("jsxRuntime", .string "classic"),
      ("paths", .object [("é\n", .array [.number (.integer (-1)), .null])])]) :=
    .object (by decide) (by simp [Kept.string, hpaths])
  have hproject : Kept 4 nestedProject := .object (by decide) (by simp [Kept.array, hoptions])
  exact hproject.mono (by decide)

theorem integral_nestedProject : nestedProject.Integral := by
  have hfits : Json.FitsWord (-1) := ⟨by decide, by decide⟩
  have hlist : Integral (.array [.number (.integer (-1)), .null]) :=
    .array (by simp [Integral.number hfits, Integral.null])
  simp [nestedProject, hlist, Integral.array]

/-- A program that writes what its variable holds. -/
def printsOptions : Host := fun invocation =>
  .ok { output := Text.Utf8.encode
          ((invocation.environment.lookup "BOSW_TRANSPILER_OPTIONS").getD "") }

theorem transpiler_told_nestedProject :
    (∃ document : Json.Document,
      document.toJson? Json.Document.maxDepth = some nestedProject) ∧
    nestedProject.Integral ∧
    ∃ text fields,
      transpiler printsOptions { program := "sh" } "const a = 1;"
        (transpilerOptions (some nestedProject)) = .ok text ∧
      Json.read? text = some (.object fields) ∧
      (Json.object fields).get? "jsxRuntime" = some (.string "classic") ∧
      (Json.object fields).get? "paths" =
        some (.object [("é\n", .array [.number (.integer (-1)), .null])]) ∧
      (Json.object fields).get? "disableESTransforms" = some (.bool true) ∧
      (Json.object fields).get? "include" = none := by
  have hread := Json.kept_iff_exists_toJson?.1 kept_nestedProject
  have hread' : ∀ value ∈ some nestedProject,
      ∃ document : Json.Document, document.toJson? Json.Document.maxDepth = some value := by
    simpa using hread
  have hintegral : ∀ value ∈ some nestedProject, value.Integral := by
    simpa using integral_nestedProject
  obtain ⟨text, fields, htold, _, _, htext, _, hget⟩ := transpiler_told hread' hintegral
  obtain ⟨hconverts, hcall⟩ := htold printsOptions { program := "sh" } "const a = 1;"
  rw [hcall (by decide)] at hconverts
  have hprinted := hconverts.unique (.text rfl (Text.Utf8.decode_encode text))
  refine ⟨hread, integral_nestedProject, text, fields, hprinted, htext, ?_, ?_, ?_, ?_⟩
  · rw [hget]
    rfl
  · rw [hget]
    rfl
  · rw [hget]
    rfl
  · rw [hget]
    rfl

end External.CommandLine

end WidgetPipeline
