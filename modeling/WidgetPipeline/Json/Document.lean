import WidgetPipeline.Json.Numeral

/-!
JSON texts as they are written. A document keeps what a value has no place for: repeated keys, and
scalars that follow the grammar and stand for nothing (half of a surrogate pair, a number beyond the
largest double). Whether these are faults depends on who reads the document: they are ignored in a
field that nobody asks for.
-/

namespace WidgetPipeline.Json

inductive Document where
  | null
  | bool (b : Bool)
  /-- A number, or none if it is beyond the largest double. -/
  | number (n : Option Number)
  /-- A string, or none if it holds half of a surrogate pair. -/
  | string (s : Option String)
  | array (items : List Document)
  | object (fields : List (Option String × Document))
deriving Repr

namespace Document

instance : Inhabited Document := ⟨.null⟩

/-- How many arrays and objects may be nested in a value that is kept. -/
def maxDepth : Nat := 127

mutual

/-- The value of a document that nests at most `depth` arrays and objects. Of a repeated key the
last value counts. -/
def toJson? (depth : Nat) : Document → Option Json
  | .null => some .null
  | .bool b => some (.bool b)
  | .number n => n.map .number
  | .string s => s.map .string
  | .array items =>
    match depth with
    | 0 => none
    | depth + 1 => (itemsToJson? depth items).map .array
  | .object fields =>
    match depth with
    | 0 => none
    | depth + 1 => (fieldsToJson? depth fields).map ofFields

def itemsToJson? (depth : Nat) : List Document → Option (List Json)
  | [] => some []
  | item :: items =>
    match item.toJson? depth, itemsToJson? depth items with
    | some value, some values => some (value :: values)
    | _, _ => none

def fieldsToJson? (depth : Nat) : List (Option String × Document) → Option (List (String × Json))
  | [] => some []
  | (key, item) :: fields =>
    match key, item.toJson? depth, fieldsToJson? depth fields with
    | some key, some value, some rest => some ((key, value) :: rest)
    | _, _, _ => none

end

mutual

def ofJson : Json → Document
  | .null => .null
  | .bool b => .bool b
  | .number n => .number (some n)
  | .string s => .string (some s)
  | .array items => .array (ofItems items)
  | .object fields => .object (ofFields fields)

def ofItems : List Json → List Document
  | [] => []
  | item :: items => ofJson item :: ofItems items

def ofFields : List (String × Json) → List (Option String × Document)
  | [] => []
  | (key, value) :: fields => (some key, ofJson value) :: ofFields fields

end

end Document

end WidgetPipeline.Json
