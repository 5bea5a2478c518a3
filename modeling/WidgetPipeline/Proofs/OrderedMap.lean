import WidgetPipeline.OrderedMap

/-!
# Maps and their entries

Entries whose keys already ascend strictly are kept as they are: nothing is replaced and nothing
moves (`toList_ofList`). The value under a key is that of its first entry (`find?_eq_lookup`), and in
a map the only one (`get?_eq_some_iff`). Entries that are written over a map hide those of the map
under their keys (`get?_foldl_insert`).
-/

namespace WidgetPipeline

universe u v

variable {κ : Type u} {α : Type v} [Ord κ]

namespace Entries

/-- A key beyond all others is written at the end. -/
theorem insert_of_forall_lt [Std.OrientedOrd κ] {key : κ} {value : α} {entries : List (κ × α)}
    (h : ∀ entry ∈ entries, compare entry.1 key = .lt) :
    insert key value entries = entries ++ [(key, value)] := by
  induction entries with
  | nil => rfl
  | cons head tail ih =>
    have hhead : compare key head.1 = .gt :=
      Std.OrientedCmp.gt_of_lt (h head List.mem_cons_self)
    have htail := ih fun entry hmem => h entry (List.mem_cons_of_mem _ hmem)
    simp [insert, hhead, htail]

/-- The value under a key is that of the first entry with the key. -/
theorem find?_eq_lookup [Std.LawfulEqOrd κ] [BEq κ] [LawfulBEq κ] (key : κ)
    (entries : List (κ × α)) : find? key entries = entries.lookup key := by
  induction entries with
  | nil => rfl
  | cons head tail ih =>
    obtain ⟨k, v⟩ := head
    rw [find?, List.lookup_cons, ih]
    by_cases h : key = k
    · simp [h]
    · have hbeq : (key == k) = false := by simpa using h
      simp [h, hbeq]

/-- Where the keys ascend, a key has the value of any entry with it. -/
theorem find?_eq_some_iff [Std.TransOrd κ] [Std.LawfulEqOrd κ] {key : κ} {value : α}
    {entries : List (κ × α)} (h : Ascending entries) :
    find? key entries = some value ↔ (key, value) ∈ entries := by
  induction entries with
  | nil => simp [find?]
  | cons head tail ih =>
    obtain ⟨hhead, htail⟩ := List.pairwise_cons.1 h
    obtain ⟨k, v⟩ := head
    rw [find?, List.mem_cons, Prod.mk.injEq]
    split
    · rename_i heq
      obtain rfl := Std.LawfulEqCmp.eq_of_compare heq
      have hnot : (key, value) ∉ tail := fun hmem => by simpa using hhead _ hmem
      simp [hnot, eq_comm]
    · rename_i hne
      have hkey : key ≠ k := fun heq => hne (by simp [heq])
      simp [hkey, ih htail]

/-- Behind a key that stands first there is no other entry with the key. -/
theorem find?_tail_of_ascending [Std.TransOrd κ] [Std.LawfulEqOrd κ] {key : κ} {value : α}
    {entries : List (κ × α)} (h : Ascending ((key, value) :: entries)) :
    find? key entries = none := by
  obtain ⟨hhead, htail⟩ := List.pairwise_cons.1 h
  cases hfind : find? key entries with
  | none => rfl
  | some other => simpa using hhead _ ((find?_eq_some_iff htail).1 hfind)

/-- The value that was written is found under its key, and the others are found as before. -/
theorem find?_insert [Std.TransOrd κ] [Std.LawfulEqOrd κ] (other key : κ) (value : α)
    (entries : List (κ × α)) :
    find? other (insert key value entries) =
      if compare other key = .eq then some value else find? other entries := by
  induction entries with
  | nil => rfl
  | cons head tail ih =>
    obtain ⟨k, v⟩ := head
    rw [insert]
    split
    · rfl
    · rename_i heq
      obtain rfl := Std.LawfulEqCmp.eq_of_compare heq
      rw [find?, find?]
      split <;> rfl
    · rename_i hgt
      rw [find?, find?, ih]
      split
      · rename_i heq
        obtain rfl := Std.LawfulEqCmp.eq_of_compare heq
        have hne : compare other key ≠ .eq := by
          intro heq'
          rw [Std.LawfulEqCmp.eq_of_compare heq'] at hgt
          simp at hgt
        rw [if_neg hne]
      · rfl

end Entries

namespace OrderedMap

variable [Std.TransOrd κ] [Std.LawfulEqOrd κ]

theorem toList_foldl_insert (map : OrderedMap κ α) {entries : List (κ × α)}
    (h : Entries.Ascending (map.toList ++ entries)) :
    (entries.foldl (fun map entry => map.insert entry.1 entry.2) map).toList =
      map.toList ++ entries := by
  induction entries generalizing map with
  | nil => simp
  | cons head tail ih =>
    have hlast : ∀ entry ∈ map.toList, compare entry.1 head.1 = .lt := fun entry hmem =>
      (List.pairwise_append.1 h).2.2 entry hmem head List.mem_cons_self
    have hinsert : (map.insert head.1 head.2).toList = map.toList ++ [head] :=
      Entries.insert_of_forall_lt hlast
    rw [List.foldl_cons, ih _ (by simpa [hinsert] using h), hinsert, List.append_assoc,
      List.singleton_append]

/-- A map of entries in ascending order lists just these entries. -/
theorem toList_ofList {entries : List (κ × α)} (h : Entries.Ascending entries) :
    (ofList entries).toList = entries :=
  toList_foldl_insert ∅ h

/-- Entries whose keys ascend are found in a map that they are written over, and the others are those
of the map. -/
theorem get?_foldl_insert (map : OrderedMap κ α) {entries : List (κ × α)}
    (h : Entries.Ascending entries) (key : κ) :
    (entries.foldl (fun map entry => map.insert entry.1 entry.2) map).get? key =
      (Entries.find? key entries).or (map.get? key) := by
  induction entries generalizing map with
  | nil => rfl
  | cons head tail ih =>
    obtain ⟨k, v⟩ := head
    have hinsert : (map.insert k v).get? key =
        if compare key k = .eq then some v else map.get? key :=
      Entries.find?_insert key k v map.toList
    rw [List.foldl_cons, ih (map.insert k v) (List.pairwise_cons.1 h).2, hinsert, Entries.find?]
    split
    · rename_i heq
      obtain rfl := Std.LawfulEqCmp.eq_of_compare heq
      rw [Entries.find?_tail_of_ascending h]
      rfl
    · rfl

theorem mem_foldl_insert {map : OrderedMap κ α} {entries : List (κ × α)} {entry : κ × α}
    (h : entry ∈ (entries.foldl (fun map entry => map.insert entry.1 entry.2) map).toList) :
    entry ∈ map.toList ∨ entry ∈ entries := by
  induction entries generalizing map with
  | nil => exact .inl h
  | cons head tail ih =>
    rcases ih h with hinsert | htail
    · rcases Entries.mem_insert hinsert with rfl | hmap
      · exact .inr List.mem_cons_self
      · exact .inl hmap
    · exact .inr (List.mem_cons_of_mem _ htail)

theorem mem_of_mem_ofList {entries : List (κ × α)} {entry : κ × α}
    (h : entry ∈ (ofList entries).toList) : entry ∈ entries := by
  rcases mem_foldl_insert h with hempty | hmem
  · cases hempty
  · exact hmem

theorem get?_eq_some_iff {map : OrderedMap κ α} {key : κ} {value : α} :
    map.get? key = some value ↔ (key, value) ∈ map.toList :=
  Entries.find?_eq_some_iff map.ascending

/-- A map that has all entries of another has its values. -/
theorem get?_of_subset {map more : OrderedMap κ α} (h : map.toList ⊆ more.toList) {key : κ}
    {value : α} (hget : map.get? key = some value) : more.get? key = some value :=
  get?_eq_some_iff.2 (h (get?_eq_some_iff.1 hget))

end OrderedMap

end WidgetPipeline
