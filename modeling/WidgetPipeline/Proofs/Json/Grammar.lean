import WidgetPipeline.Json.Printer
import WidgetPipeline.Json.Reader

/-!
# The grammar of JSON texts

`Writes value text` says that the text is a way to write the value: its strings and integers as the
printers write them, its parts with any white space between them. The compact and the indented text
of a value both are such texts (`writes_compactChars`, `writes_indentedChars`), so that what a reader
does with a JSON text has to be said once.

Doubles are left out, but for a zero with a sign: all numbers here are integers, and 64 bits hold
them.
-/

namespace WidgetPipeline.Json

/-- Whether an integer stands for itself in a JSON text, as a signed or an unsigned 64-bit word. -/
def FitsWord (n : Int) : Prop := -(Nat.pow 2 63 : Nat) ≤ n ∧ n < (Text.wordLimit : Nat)

/-- The values whose numbers are integers within 64 bits. -/
inductive Integral : Json → Prop
  | null : Integral .null
  | bool {b : Bool} : Integral (.bool b)
  | number {n : Int} (fits : FitsWord n) : Integral (.number (.integer n))
  /-- The integer `-0`, which is read as a double. -/
  | negativeZero : Integral (.number (.double (Binary64.zero true)))
  | string {s : String} : Integral (.string s)
  | array {items : List Json} (each : ∀ item ∈ items, Integral item) : Integral (.array items)
  | object {fields : List (String × Json)} (each : ∀ field ∈ fields, Integral field.2) :
      Integral (.object fields)

section Integral

variable {fields : List (String × Json)}

@[simp] theorem integral_string {s : String} : Integral (.string s) := .string

theorem integral_ofNat {n : Nat} (h : n < Text.wordLimit) : Integral (ofNat n) := by
  refine .number ⟨?_, Int.ofNat_lt.2 h⟩
  have := Int.natCast_nonneg n
  omega

@[simp] theorem integral_object_iff :
    Integral (.object fields) ↔ ∀ field ∈ fields, Integral field.2 :=
  ⟨fun | .object each => each, .object⟩

end Integral

/-- White space, or nothing. -/
def Space (cs : List Char) : Prop := ∀ c ∈ cs, isSpace c = true

theorem Space.nil : Space [] := by simp [Space]

theorem Space.blank : Space [' '] := by simp [Space, isSpace]

theorem Space.newLine (depth : Nat) : Space (newLine depth) := by
  simp +contextual [Space, Json.newLine, isSpace]

/-- The text from the comma or brace in front of a field to its value: the quoted key, the colon, and
white space around them. -/
def keyText (before : List Char) (key : String) (behind gap : List Char) : List Char :=
  before ++ (quote key ++ (behind ++ ':' :: gap))

mutual

/-- Whether a text is a way to write a value. -/
inductive Writes : Json → List Char → Prop
  | null : Writes .null ['n', 'u', 'l', 'l']
  | trueWord : Writes (.bool true) ['t', 'r', 'u', 'e']
  | falseWord : Writes (.bool false) ['f', 'a', 'l', 's', 'e']
  | number {n : Int} (fits : FitsWord n) : Writes (.number (.integer n)) (integerText n)
  | negativeZero : Writes (.number (.double (Binary64.zero true))) ['-', '0', '.', '0']
  | string {s : String} : Writes (.string s) (quote s)
  | emptyArray {space : List Char} (hspace : Space space) :
      Writes (.array []) ('[' :: (space ++ [']']))
  | array {item : Json} {items : List Json} {space text tail : List Char} (hspace : Space space)
      (hitem : Writes item text) (hitems : WritesItems items tail) :
      Writes (.array (item :: items)) ('[' :: (space ++ (text ++ tail)))
  | emptyObject {space : List Char} (hspace : Space space) :
      Writes (.object []) ('{' :: (space ++ ['}']))
  | object (key : String) {value : Json} {fields : List (String × Json)}
      {before behind gap text tail : List Char} (hbefore : Space before) (hbehind : Space behind)
      (hgap : Space gap) (hvalue : Writes value text) (hfields : WritesFields fields tail) :
      Writes (.object ((key, value) :: fields))
        ('{' :: (keyText before key behind gap ++ (text ++ tail)))

/-- Whether a text is a way to write the items of an array that follow its first, with the closing
bracket. -/
inductive WritesItems : List Json → List Char → Prop
  | close {space : List Char} (hspace : Space space) : WritesItems [] (space ++ [']'])
  | item {item : Json} {items : List Json} {before behind text tail : List Char}
      (hbefore : Space before) (hbehind : Space behind) (hitem : Writes item text)
      (hitems : WritesItems items tail) :
      WritesItems (item :: items) (before ++ ',' :: (behind ++ (text ++ tail)))

/-- Whether a text is a way to write the fields of an object that follow its first, with the closing
brace. -/
inductive WritesFields : List (String × Json) → List Char → Prop
  | close {space : List Char} (hspace : Space space) : WritesFields [] (space ++ ['}'])
  | field (key : String) {value : Json} {fields : List (String × Json)}
      {space before behind gap text tail : List Char} (hspace : Space space)
      (hbefore : Space before) (hbehind : Space behind) (hgap : Space gap)
      (hvalue : Writes value text) (hfields : WritesFields fields tail) :
      WritesFields ((key, value) :: fields)
        (space ++ ',' :: (keyText before key behind gap ++ (text ++ tail)))

end

section Compact

theorem writesItems_compactItems {items : List Json}
    (each : ∀ item ∈ items, Writes item (compactChars item)) :
    WritesItems items (compactItems items) := by
  induction items with
  | nil => exact .close .nil
  | cons item items ih =>
    rw [List.forall_mem_cons] at each
    exact .item .nil .nil each.1 (ih each.2)

theorem writesFields_compactFields {fields : List (String × Json)}
    (each : ∀ field ∈ fields, Writes field.2 (compactChars field.2)) :
    WritesFields fields (compactFields fields) := by
  induction fields with
  | nil => exact .close .nil
  | cons field fields ih =>
    obtain ⟨key, value⟩ := field
    rw [List.forall_mem_cons] at each
    simpa [keyText, compactFields] using
      WritesFields.field key .nil .nil .nil .nil each.1 (ih each.2)

/-- The compact text of a value is a way to write it. -/
theorem writes_compactChars {value : Json} (h : value.Integral) :
    Writes value (compactChars value) := by
  induction h with
  | null => exact .null
  | @bool b => cases b with
    | true => exact .trueWord
    | false => exact .falseWord
  | number fits => exact .number fits
  | negativeZero => exact .negativeZero
  | string => exact .string
  | @array items _ ih => cases items with
    | nil => exact .emptyArray .nil
    | cons item items =>
      rw [List.forall_mem_cons] at ih
      exact .array .nil ih.1 (writesItems_compactItems ih.2)
  | @object fields _ ih => cases fields with
    | nil => exact .emptyObject .nil
    | cons field fields =>
      obtain ⟨key, value⟩ := field
      rw [List.forall_mem_cons] at ih
      simpa [keyText, compactChars] using
        Writes.object key .nil .nil .nil ih.1 (writesFields_compactFields ih.2)

end Compact

section Indented

theorem writesItems_indentedItems {items : List Json} (depth : Nat)
    (each : ∀ item ∈ items, Writes item (indentedChars (depth + 1) item)) :
    WritesItems items (indentedItems depth items) := by
  induction items with
  | nil => exact .close (.newLine depth)
  | cons item items ih =>
    rw [List.forall_mem_cons] at each
    simpa [indentedItems] using WritesItems.item .nil (.newLine (depth + 1)) each.1 (ih each.2)

theorem writesFields_indentedFields {fields : List (String × Json)} (depth : Nat)
    (each : ∀ field ∈ fields, Writes field.2 (indentedChars (depth + 1) field.2)) :
    WritesFields fields (indentedFields depth fields) := by
  induction fields with
  | nil => exact .close (.newLine depth)
  | cons field fields ih =>
    obtain ⟨key, value⟩ := field
    rw [List.forall_mem_cons] at each
    simpa [keyText, indentedFields] using
      WritesFields.field key .nil (.newLine (depth + 1)) .nil .blank each.1 (ih each.2)

/-- The indented text of a value is a way to write it, at any depth. -/
theorem writes_indentedChars {value : Json} (h : value.Integral) (depth : Nat) :
    Writes value (indentedChars depth value) := by
  induction h generalizing depth with
  | null => exact .null
  | @bool b => cases b with
    | true => exact .trueWord
    | false => exact .falseWord
  | number fits => exact .number fits
  | negativeZero => exact .negativeZero
  | string => exact .string
  | @array items _ ih => cases items with
    | nil => exact .emptyArray .nil
    | cons item items =>
      rw [List.forall_mem_cons] at ih
      simpa [indentedChars] using Writes.array (.newLine (depth + 1)) (ih.1 (depth + 1))
        (writesItems_indentedItems depth fun item hitem => ih.2 item hitem (depth + 1))
  | @object fields _ ih => cases fields with
    | nil => exact .emptyObject .nil
    | cons field fields =>
      obtain ⟨key, value⟩ := field
      rw [List.forall_mem_cons] at ih
      simpa [keyText, indentedChars] using
        Writes.object key (.newLine (depth + 1)) .nil .blank (ih.1 (depth + 1))
          (writesFields_indentedFields depth fun field hfield => ih.2 field hfield (depth + 1))

end Indented

end WidgetPipeline.Json
