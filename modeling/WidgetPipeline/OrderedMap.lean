/-!
Finite maps kept as a list of entries with strictly ascending keys. A key occurs once, writing it
again replaces its value, and walking the map visits the keys in order. `Entries` has the
operations on bare lists, `OrderedMap` bundles a list with the order of its keys.
-/

namespace WidgetPipeline

namespace Entries

universe u v

variable {κ : Type u} {α : Type v} [Ord κ]

def Ascending (entries : List (κ × α)) : Prop :=
  entries.Pairwise fun a b => compare a.1 b.1 = .lt

instance (entries : List (κ × α)) : Decidable (Ascending entries) :=
  inferInstanceAs (Decidable (entries.Pairwise _))

/-- Writes a value under a key, in the place that keeps the keys ascending. -/
def insert (key : κ) (value : α) : List (κ × α) → List (κ × α)
  | [] => [(key, value)]
  | (k, v) :: entries =>
    match compare key k with
    | .lt => (key, value) :: (k, v) :: entries
    | .eq => (key, value) :: entries
    | .gt => (k, v) :: insert key value entries

def find? (key : κ) : List (κ × α) → Option α
  | [] => none
  | (k, v) :: entries => if compare key k = .eq then some v else find? key entries

def erase (key : κ) (entries : List (κ × α)) : List (κ × α) :=
  entries.filter fun entry => compare key entry.1 ≠ .eq

theorem mem_insert {key : κ} {value : α} {entries : List (κ × α)} {entry : κ × α}
    (h : entry ∈ insert key value entries) : entry = (key, value) ∨ entry ∈ entries := by
  induction entries with
  | nil => simpa [insert] using h
  | cons head tail ih =>
    unfold insert at h
    split at h
    · simpa using h
    · simp only [List.mem_cons] at h ⊢
      exact h.imp id Or.inr
    · simp only [List.mem_cons] at h ⊢
      rcases h with h | h
      · exact .inr (.inl h)
      · exact (ih h).imp id Or.inr

theorem ascending_insert [Std.TransOrd κ] [Std.LawfulEqOrd κ] (key : κ) (value : α)
    {entries : List (κ × α)} (h : Ascending entries) : Ascending (insert key value entries) := by
  induction entries with
  | nil => simp [insert, Ascending]
  | cons head tail ih =>
    obtain ⟨hhead, htail⟩ := List.pairwise_cons.1 h
    unfold insert
    split
    · rename_i hlt
      refine List.pairwise_cons.2 ⟨?_, h⟩
      intro entry hmem
      rcases List.mem_cons.1 hmem with rfl | hmem
      · exact hlt
      · exact Std.TransCmp.lt_trans hlt (hhead entry hmem)
    · rename_i heq
      have hkey := Std.LawfulEqCmp.eq_of_compare heq
      refine List.pairwise_cons.2 ⟨?_, htail⟩
      intro entry hmem
      simpa [hkey] using hhead entry hmem
    · rename_i hgt
      refine List.pairwise_cons.2 ⟨?_, ih htail⟩
      intro entry hmem
      rcases mem_insert hmem with rfl | hmem
      · exact Std.OrientedCmp.lt_of_gt hgt
      · exact hhead entry hmem

theorem ascending_erase (key : κ) {entries : List (κ × α)} (h : Ascending entries) :
    Ascending (erase key entries) :=
  List.Pairwise.sublist List.filter_sublist h

end Entries

universe u v

/-- A finite map whose entries are listed with strictly ascending keys. -/
structure OrderedMap (κ : Type u) (α : Type v) [Ord κ] where
  /-- The entries in the order of their keys. -/
  toList : List (κ × α)
  ascending : Entries.Ascending toList := by decide
deriving DecidableEq

namespace OrderedMap

variable {κ : Type u} {α : Type v} [Ord κ]

def empty : OrderedMap κ α := ⟨[], List.Pairwise.nil⟩

instance : EmptyCollection (OrderedMap κ α) := ⟨empty⟩

instance : Inhabited (OrderedMap κ α) := ⟨empty⟩

def get? (map : OrderedMap κ α) (key : κ) : Option α := Entries.find? key map.toList

def contains (map : OrderedMap κ α) (key : κ) : Bool := (map.get? key).isSome

def keys (map : OrderedMap κ α) : List κ := map.toList.map (·.1)

def values (map : OrderedMap κ α) : List α := map.toList.map (·.2)

def erase (map : OrderedMap κ α) (key : κ) : OrderedMap κ α :=
  ⟨Entries.erase key map.toList, Entries.ascending_erase key map.ascending⟩

variable [Std.TransOrd κ] [Std.LawfulEqOrd κ]

def insert (map : OrderedMap κ α) (key : κ) (value : α) : OrderedMap κ α :=
  ⟨Entries.insert key value map.toList, Entries.ascending_insert key value map.ascending⟩

/-- The map of a list of entries. Of two entries with one key the later stays. -/
def ofList (entries : List (κ × α)) : OrderedMap κ α :=
  entries.foldl (fun map entry => map.insert entry.1 entry.2) ∅

end OrderedMap

end WidgetPipeline
