import WidgetPipeline.Json.Decode
import WidgetPipeline.Proofs.Json.Reading

/-!
# Records that are read back

A record is lossless if its JSON form has integers of 64 bits only and reads back as the record
(`Lossless`). Then the compact and the indented text of the form read back as the record as well.
A list of lossless records is lossless (`Lossless.list`), and so each record is traced back to its
fields: what the reader finds under their names is what was written there (`slots?_object`).
-/

namespace WidgetPipeline.Json

namespace Document

variable {items : List Json} {fields : List (String × Json)} {names : List String} {name : String}

theorem ofItems_eq_map : ofItems items = items.map ofJson := by
  induction items with
  | nil => rfl
  | cons item items ih => rw [ofItems, ih, List.map_cons]

theorem eraseDups_of_nodup (h : names.Nodup) : names.eraseDups = names := by
  induction names with
  | nil => rfl
  | cons name names ih =>
    obtain ⟨hname, hnames⟩ := List.nodup_cons.1 h
    have hothers : (names.filter fun other => !other == name) = names :=
      List.filter_eq_self.2 fun other hother => by
        simpa using ne_of_mem_of_not_mem hother hname
    rw [List.eraseDups_cons, hothers, ih hnames]

theorem mapM_fields :
    ((ofFields fields).mapM fun (key, value) => key.map (·, value)) =
      some (fields.map fun field => (field.1, ofJson field.2)) := by
  induction fields with
  | nil => rfl
  | cons field fields ih => simp [ofFields, ih]

/-- Looking for a name that is known, the fields with unknown names do not matter. -/
theorem lookup_known (h : name ∈ names) :
    ((fields.map fun field => (field.1, ofJson field.2)).filter fun entry =>
      names.contains entry.1).lookup name = (fields.lookup name).map ofJson := by
  induction fields with
  | nil => rfl
  | cons field fields ih =>
    obtain ⟨key, value⟩ := field
    by_cases hkey : name = key
    · subst hkey
      simp [h]
    · have hmiss : (name == key) = false := beq_false_of_ne hkey
      by_cases hknown : key ∈ names
      · simpa [List.lookup_cons, hmiss, hknown] using ih
      · simpa [List.lookup_cons, hmiss, hknown] using ih

/-- The fields of a written record are found under their names, if no name stands for two. -/
theorem slots?_object (hkeys : (fields.map (·.1)).Nodup) :
    slots? names (ofJson (.object fields)) =
      some (names.map fun name => (fields.lookup name).map ofJson) := by
  have hknown : (((fields.map fun field => (field.1, ofJson field.2)).filter fun entry =>
      names.contains entry.1).map (·.1)).Nodup := by
    refine List.Nodup.sublist (List.filter_sublist.map _) ?_
    simpa [Function.comp_def] using hkeys
  simp only [slots?, ofJson, mapM_fields, Option.bind_eq_bind, Option.bind_some,
    eraseDups_of_nodup hknown, List.length_map, ne_eq, not_true_eq_false, if_false]
  exact congrArg some (List.map_congr_left fun name hname => lookup_known hname)

end Document

/-- That a value is written with integers of 64 bits only, and read back from what is written. -/
structure Lossless {α : Type} (encode : α → Json) (decode : Document → Option α) (value : α) :
    Prop where
  integral : (encode value).Integral
  decode_ofJson : decode (.ofJson (encode value)) = some value

namespace Lossless

variable {α : Type} {encode : α → Json} {decode : Document → Option α} {value : α}
  {values : List α}

theorem compact (h : Lossless encode decode value) :
    (Document.read? (encode value).compact).bind decode = some value := by
  rw [read?_compact h.integral]
  exact h.decode_ofJson

theorem indented (h : Lossless encode decode value) {behind : List Char} (hbehind : Space behind) :
    (Document.read? ((encode value).indented ++ String.ofList behind)).bind decode =
      some value := by
  rw [read?_indented h.integral hbehind]
  exact h.decode_ofJson

theorem list (each : ∀ value ∈ values, Lossless encode decode value) :
    Lossless (fun values => .array (values.map encode)) (Document.list? decode) values := by
  refine ⟨.array ?_, ?_⟩
  · intro item hitem
    obtain ⟨value, hvalue, rfl⟩ := List.mem_map.1 hitem
    exact (each value hvalue).integral
  · have hdecode : (values.map (Document.ofJson ∘ encode)).mapM decode = some values := by
      induction values with
      | nil => rfl
      | cons value values ih =>
        rw [List.forall_mem_cons] at each
        simp [each.1.decode_ofJson, ih each.2]
    simpa [Document.list?, Document.ofJson, Document.ofItems_eq_map] using hdecode

end Lossless

end WidgetPipeline.Json
