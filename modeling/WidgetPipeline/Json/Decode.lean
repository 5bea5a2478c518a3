import WidgetPipeline.Json.Reader

/-!
Reading records from documents. A record is written as an object with its fields in any order, or as
an array with its fields in their places. Fields that the record does not have are passed over; a
field that it has may not be repeated. What a field that is missing means is for the record to say.
-/

namespace WidgetPipeline.Json.Document

/-- The fields of a record, each with what the document writes for it. -/
def slots? (names : List String) : Document → Option (List (Option Document))
  | .array items =>
    if items.length ≤ names.length then some (names.mapIdx fun index _ => items[index]?) else none
  | .object fields => do
    let entries ← fields.mapM fun (key, value) => key.map (·, value)
    let known := entries.filter fun entry => names.contains entry.1
    if known.length ≠ (known.map (·.1)).eraseDups.length then none
    else some (names.map fun name => known.lookup name)
  | _ => none

def required {α : Type} (decode : Document → Option α) (slot : Option Document) : Option α :=
  slot.bind decode

def withDefault {α : Type} (default : α) (decode : Document → Option α) :
    Option Document → Option α
  | none => some default
  | some document => decode document

/-- The value of a field that may be missing or null. -/
def nullable {α : Type} (decode : Document → Option α) : Option Document → Option (Option α)
  | none => some none
  | some .null => some none
  | some document => (decode document).map some

def string? : Document → Option String
  | .string s => s
  | _ => none

def bool? : Document → Option Bool
  | .bool b => some b
  | _ => none

/-- An integer from zero on. It is not read from a text with a point or an exponent. -/
def nat? : Document → Option Nat
  | .number (some (.integer (.ofNat n))) => some n
  | _ => none

def list? {α : Type} (decode : Document → Option α) : Document → Option (List α)
  | .array items => items.mapM decode
  | _ => none

/-- A table of values of one kind. Of a repeated key the last value counts. -/
def table? {α : Type} (decode : Document → Option α) : Document → Option (OrderedMap String α)
  | .object fields => do
    let entries ← fields.mapM fun (key, value) => do return (← key, ← decode value)
    return .ofList entries
  | _ => none

/-- A value inside a record. -/
def nestedJson? (document : Document) : Option Json := document.toJson? (maxDepth - 1)

/-- One of the words of an enumeration, alone or as the key of an object that holds nothing else
than null. -/
def word? {α : Type} (ofName? : String → Option α) : Document → Option α
  | .string (some name) => ofName? name
  | .object [(some name, .null)] => ofName? name
  | _ => none

end WidgetPipeline.Json.Document
