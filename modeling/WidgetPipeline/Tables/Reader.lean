import WidgetPipeline.Failure
import WidgetPipeline.Json.Decode
import WidgetPipeline.Tables
import WidgetPipeline.Yaml.Decode

/-!
Reading reference tables from JSON documents and from YAML texts. Every table may be left out. In a
JSON document none but the configuration tree may be null; in a YAML text a table with nothing
behind its name is empty.
-/

namespace WidgetPipeline

open Json (Document)

namespace ReferenceTables

def fieldNames : List String := ["config", "modules", "ipfsMap", "ipfsGateway", "aliases"]

def moduleSet (paths : List String) : OrderedMap String Unit :=
  .ofList (paths.map fun path => (path, ()))

def ofDocument? (document : Document) : Option ReferenceTables := do
  let [config, modules, assets, gateway, aliases] ← document.slots? fieldNames | none
  return {
    config := ← Document.withDefault .null Document.nestedJson? config
    modules := moduleSet (← Document.withDefault [] (Document.list? Document.string?) modules)
    assets := ← Document.withDefault ∅ (Document.table? Document.string?) assets
    gateway := ← Document.withDefault "" Document.string? gateway
    aliases := ← Document.withDefault ∅ (Document.table? Document.string?) aliases }

def ofNode (root : Yaml.Node) : Yaml.Decoder ReferenceTables := do
  let [config, modules, assets, gateway, aliases] ← Yaml.Decoder.slots fieldNames root | failure
  let field {α : Type} (default : α) (decode : Yaml.Node → Yaml.Decoder α) :
      Option Yaml.Node → Yaml.Decoder α
    | none => pure default
    | some node => decode node
  return {
    config := ← field .null (Yaml.Decoder.json (Yaml.Decoder.maxDepth - 1)) config
    modules := moduleSet (← field [] Yaml.Decoder.textList modules)
    assets := ← field ∅ Yaml.Decoder.textTable assets
    gateway := ← field "" Yaml.Decoder.text gateway
    aliases := ← field ∅ Yaml.Decoder.textTable aliases }

def ofYaml? (text : String) : Option ReferenceTables := Yaml.Decoder.run? ofNode text

/-- The tables in a file, given the texts of files. Where the text holds no tables, a fixed message
stands for what the parser says about it, which is left out. -/
def load (fileText : String → Except FileError String) (path : String) :
    Except PipelineError ReferenceTables :=
  match fileText path with
  | .error error => .error (.io error)
  | .ok text =>
    match ofYaml? text with
    | some tables => .ok tables
    | none => .error (.config "malformed tables")

end ReferenceTables

end WidgetPipeline
