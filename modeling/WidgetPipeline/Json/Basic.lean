import WidgetPipeline.Binary64.Basic
import WidgetPipeline.OrderedMap

/-!
JSON values. Numbers are integers of 64 bits or doubles; the keys of an object are strings, and an
object that was read from a text has them in ascending order, each once.
-/

namespace WidgetPipeline

/-- A JSON number. Integers stand for themselves in the range of 64-bit words, signed or unsigned. -/
inductive Json.Number where
  | integer (n : Int)
  | double (x : Binary64)
deriving DecidableEq, Repr

inductive Json where
  | null
  | bool (b : Bool)
  | number (n : Json.Number)
  | string (s : String)
  | array (items : List Json)
  | object (fields : List (String × Json))
deriving Repr

namespace Json

instance : Inhabited Json := ⟨.null⟩

def ofNat (n : Nat) : Json := .number (.integer n)

def get? (value : Json) (key : String) : Option Json :=
  match value with
  | .object fields => Entries.find? key fields
  | _ => none

def string? : Json → Option String
  | .string s => some s
  | _ => none

def bool? : Json → Option Bool
  | .bool b => some b
  | _ => none

/-- The object with the given fields in ascending order of their keys; of two fields with one key
the later stays. -/
def ofFields (fields : List (String × Json)) : Json := .object (OrderedMap.ofList fields).toList

mutual

/-- The value with the fields of every object in ascending order of their keys. -/
def sortKeys : Json → Json
  | .array items => .array (sortItems items)
  | .object fields => ofFields (sortFields fields)
  | value => value

def sortItems : List Json → List Json
  | [] => []
  | item :: items => item.sortKeys :: sortItems items

/-- Sorts the keys within each field's value. -/
def sortFields : List (String × Json) → List (String × Json)
  | [] => []
  | (key, value) :: fields => (key, value.sortKeys) :: sortFields fields

end

end Json

end WidgetPipeline
