import WidgetPipeline.Proofs.Json.Reading
import WidgetPipeline.Proofs.OrderedMap

/-!
# Values that documents stand for

A document that is read as a value nests so many arrays and objects at most, and the value lists the
fields of its objects in the order of their keys, each key once (`Kept`). These are all the values that
documents stand for (`kept_iff_exists_toJson?`), and each of them is read back from its own document
(`Kept.toJson?_ofJson`) and, with integers only, from its compact text (`Kept.read?_compact`).
-/

namespace WidgetPipeline.Json

/-- The value nests at most `depth` arrays and objects, and the keys of its objects ascend. -/
inductive Kept : Nat → Json → Prop
  | null {depth : Nat} : Kept depth .null
  | bool {depth : Nat} {b : Bool} : Kept depth (.bool b)
  | number {depth : Nat} {n : Number} : Kept depth (.number n)
  | string {depth : Nat} {s : String} : Kept depth (.string s)
  | array {depth : Nat} {items : List Json} (each : ∀ item ∈ items, Kept depth item) :
      Kept (depth + 1) (.array items)
  | object {depth : Nat} {fields : List (String × Json)} (ascending : Entries.Ascending fields)
      (each : ∀ field ∈ fields, Kept depth field.2) : Kept (depth + 1) (.object fields)

namespace Kept

variable {depth : Nat} {value : Json} {items : List Json} {fields : List (String × Json)}

theorem mono (h : Kept depth value) {more : Nat} (hle : depth ≤ more) : Kept more value := by
  induction h generalizing more with
  | null => exact .null
  | bool => exact .bool
  | number => exact .number
  | string => exact .string
  | array _ ih =>
    obtain ⟨more, rfl⟩ := Nat.exists_eq_succ_of_ne_zero (Nat.ne_zero_of_lt hle)
    exact .array fun item hitem => ih item hitem (Nat.le_of_succ_le_succ hle)
  | object ascending _ ih =>
    obtain ⟨more, rfl⟩ := Nat.exists_eq_succ_of_ne_zero (Nat.ne_zero_of_lt hle)
    exact .object ascending fun field hfield => ih field hfield (Nat.le_of_succ_le_succ hle)

/-- A field that is found is one of the fields. -/
theorem exists_field (h : Kept depth value) {key : String} {inner : Json}
    (hget : value.get? key = some inner) :
    ∃ fields, value = .object fields ∧ (key, inner) ∈ fields := by
  cases h with
  | object ascending each =>
    exact ⟨_, rfl, (Entries.find?_eq_some_iff ascending).1 hget⟩
  | _ => cases hget

theorem get? (h : Kept depth value) {key : String} {inner : Json}
    (hget : value.get? key = some inner) : Kept depth inner := by
  obtain ⟨fields, rfl, hmem⟩ := h.exists_field hget
  cases h with
  | object _ each => exact (each _ hmem).mono (Nat.le_succ _)

theorem itemsToJson?_ofItems
    (each : ∀ item ∈ items, (Document.ofJson item).toJson? depth = some item) :
    Document.itemsToJson? depth (Document.ofItems items) = some items := by
  induction items with
  | nil => rfl
  | cons item items ih =>
    rw [List.forall_mem_cons] at each
    rw [Document.ofItems, Document.itemsToJson?, each.1, ih each.2]

theorem fieldsToJson?_ofFields
    (each : ∀ field ∈ fields, (Document.ofJson field.2).toJson? depth = some field.2) :
    Document.fieldsToJson? depth (Document.ofFields fields) = some fields := by
  induction fields with
  | nil => rfl
  | cons field fields ih =>
    obtain ⟨key, value⟩ := field
    rw [List.forall_mem_cons] at each
    simp only [Document.ofFields, Document.fieldsToJson?, each.1, ih each.2]

/-- The document of a value is read as the value. -/
theorem toJson?_ofJson (h : Kept depth value) :
    (Document.ofJson value).toJson? depth = some value := by
  induction h with
  | null => rfl
  | bool => rfl
  | number => rfl
  | string => rfl
  | array _ ih => rw [Document.ofJson, Document.toJson?, itemsToJson?_ofItems ih]; rfl
  | object ascending _ ih =>
    rw [Document.ofJson, Document.toJson?, fieldsToJson?_ofFields ih, Option.map_some, ofFields,
      OrderedMap.toList_ofList ascending]

end Kept

mutual

theorem kept_of_toJson? {depth : Nat} {value : Json} :
    (document : Document) → document.toJson? depth = some value → Kept depth value
  | .null, h => by
    cases h
    exact .null
  | .bool b, h => by
    cases h
    exact .bool
  | .number n, h => by
    obtain ⟨n, _, rfl⟩ := Option.map_eq_some_iff.1 h
    exact .number
  | .string s, h => by
    obtain ⟨s, _, rfl⟩ := Option.map_eq_some_iff.1 h
    exact .string
  | .array items, h => by
    cases depth with
    | zero => simp [Document.toJson?] at h
    | succ depth =>
      obtain ⟨values, hvalues, rfl⟩ := Option.map_eq_some_iff.1 h
      exact .array (kept_of_itemsToJson? items hvalues)
  | .object fields, h => by
    cases depth with
    | zero => simp [Document.toJson?] at h
    | succ depth =>
      obtain ⟨entries, hentries, rfl⟩ := Option.map_eq_some_iff.1 h
      refine .object (OrderedMap.ofList entries).ascending fun entry hmem => ?_
      exact kept_of_fieldsToJson? fields hentries entry (OrderedMap.mem_of_mem_ofList hmem)

theorem kept_of_itemsToJson? {depth : Nat} {values : List Json} :
    (items : List Document) → Document.itemsToJson? depth items = some values →
      ∀ value ∈ values, Kept depth value
  | [], h => by
    cases h
    simp
  | item :: items, h => by
    unfold Document.itemsToJson? at h
    split at h
    · rename_i value values hvalue hvalues
      cases h
      exact List.forall_mem_cons.2
        ⟨kept_of_toJson? item hvalue, kept_of_itemsToJson? items hvalues⟩
    · cases h

theorem kept_of_fieldsToJson? {depth : Nat} {entries : List (String × Json)} :
    (fields : List (Option String × Document)) →
      Document.fieldsToJson? depth fields = some entries →
      ∀ entry ∈ entries, Kept depth entry.2
  | [], h => by
    cases h
    simp
  | (key, item) :: fields, h => by
    unfold Document.fieldsToJson? at h
    split at h
    · rename_i key value rest hvalue hrest
      cases h
      exact List.forall_mem_cons.2
        ⟨kept_of_toJson? item hvalue, kept_of_fieldsToJson? fields hrest⟩
    · cases h

end

/-- The values of documents are those that are kept. -/
theorem kept_iff_exists_toJson? {depth : Nat} {value : Json} :
    Kept depth value ↔ ∃ document : Document, document.toJson? depth = some value :=
  ⟨fun h => ⟨_, h.toJson?_ofJson⟩, fun ⟨document, h⟩ => kept_of_toJson? document h⟩

/-- A value that a document stands for is read back from its compact text. -/
theorem Kept.read?_compact {value : Json} (h : Kept Document.maxDepth value)
    (hintegral : value.Integral) : read? value.compact = some value := by
  rw [read?, Json.read?_compact hintegral, Option.bind_some, h.toJson?_ofJson]

end WidgetPipeline.Json
