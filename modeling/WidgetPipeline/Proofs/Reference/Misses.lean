import Mathlib.Data.List.Forall2
import WidgetPipeline.Proofs.Reference.Resolution

/-!
# References to what is not there

A path is named again by its segments with slashes between them, behind the word for the table. If
it has a segment at all, that spells the reference to it: what was cut at the slashes is joined to
the same text (`Segments.wrap_eq`). So a text stays as it is where every reference misses, and each
of them is reported in its place (`resolveReferences_of_misses`). Modules are left out, as they have
an address in any case, and so are two references that do not stay as they were spelled: the short
form for the account that deploys, and the word for a table with no path behind it.
-/

namespace WidgetPipeline

namespace Reference

/-- The table of a keyword has nothing at a path. -/
def Keyword.Absent (tables : ReferenceTables) : Keyword → List String → Prop
  | .config, path => lookup? tables.config path = none
  | .module, path => tables.modules.get? (joinSegments '.' path) = none
  | .ipfs, path => tables.assets.get? (joinSegments '/' path) = none
  | .alias, path => tables.aliases.get? (joinSegments '/' path) = none

instance (tables : ReferenceTables) :
    (keyword : Keyword) → (path : List String) → Decidable (keyword.Absent tables path)
  | .config, path => inferInstanceAs (Decidable (lookup? tables.config path = none))
  | .module, path =>
    inferInstanceAs (Decidable (tables.modules.get? (joinSegments '.' path) = none))
  | .ipfs, path => inferInstanceAs (Decidable (tables.assets.get? (joinSegments '/' path) = none))
  | .alias, path =>
    inferInstanceAs (Decidable (tables.aliases.get? (joinSegments '/' path) = none))

/-- A path that is not found in the table of a keyword, and whose reference is left as it was
spelled. -/
structure Misses (tables : ReferenceTables) (keyword : Keyword) (path : List String) : Prop where
  notModule : keyword ≠ .module
  notShort : keyword = .config → path.head? ≠ some "account"
  ne_nil : path ≠ []
  absent : keyword.Absent tables path

/-- A warning about a reference. It ends with the whole reference, or names the first segment if
that stands for no table. -/
structure WarnsOf (inner : List Char) (diagnostic : Diagnostic) : Prop where
  level : diagnostic.level = .warn
  known : ∀ (keyword : Keyword) path, Segments inner keyword.name path →
    expression inner <:+ diagnostic.message.toList
  unknown : ∀ name path, Segments inner name path → (∀ keyword : Keyword, keyword.name ≠ name) →
    diagnostic.message = "Unknown keyword: " ++ name

variable {tables : ReferenceTables} {inner : List Char} {name : String} {keyword : Keyword}
  {path : List String}

/-! ## Spelling a reference again -/

/-- Naming the segments of a reference spells the reference. -/
theorem Segments.wrap_eq (segments : Segments inner name path) (hne : path ≠ []) :
    wrap (joinSegments '/' path) name = String.ofList (expression inner) := by
  obtain ⟨first, rest, rfl⟩ := List.exists_cons_of_ne_nil hne
  rw [wrap, ← segments.joined]
  simp [joinSegments]

theorem configPath_eq (h : path.head? ≠ some "account") : configPath path = path := by
  unfold configPath
  split
  · simp at h
  · rfl

/-! ## One reference -/

/-- A path that is not found is named again, and so it is in the report. -/
theorem Misses.resolve_eq (h : Misses tables keyword path) :
    keyword.resolve tables path =
      { text := wrap (joinSegments '/' path) keyword.name
        miss := some (.absent keyword (wrap (joinSegments '/' path) keyword.name)) } := by
  obtain ⟨notModule, notShort, -, absent⟩ := h
  cases keyword with
  | module => contradiction
  | config =>
    have hpath := configPath_eq (notShort rfl)
    simp only [Keyword.Absent] at absent
    simp [Keyword.resolve, resolveConfig, hpath, absent]
  | ipfs =>
    simp only [Keyword.Absent] at absent
    simp [Keyword.resolve, resolveAsset, absent]
  | _ =>
    simp only [Keyword.Absent] at absent
    simp [Keyword.resolve, resolveAlias, absent]

theorem suffix_toList_append (start text : String) : text.toList <:+ (start ++ text).toList := by
  rw [String.toList_append]
  exact List.suffix_append _ _

/-- What is reported of a path that is not found ends with the expression for it. -/
theorem Miss.suffix_message_absent (keyword : Keyword) (expression : String) :
    expression.toList <:+ (Miss.absent keyword expression).message.toList := by
  cases keyword with
  | config => exact suffix_toList_append "Config value not found: " expression
  | module => exact suffix_toList_append "Imported module not found locally: " expression
  | ipfs => exact suffix_toList_append "IPFS file or mapping not found: " expression
  | _ => exact suffix_toList_append "Imported alias not found: " expression

theorem warnsOf_absent (segments : Segments inner keyword.name path) :
    WarnsOf inner (.warn (Miss.absent keyword (String.ofList (expression inner))).message) := by
  refine ⟨rfl, fun _ _ _ => ?_, fun name path' segments' unnamed => ?_⟩
  · have hsuffix := Miss.suffix_message_absent keyword (String.ofList (expression inner))
    rw [String.toList_ofList] at hsuffix
    exact hsuffix
  · exact absurd (segments.unique segments').1 (unnamed keyword)

theorem warnsOf_unknown (segments : Segments inner name path)
    (unnamed : ∀ keyword : Keyword, keyword.name ≠ name) :
    WarnsOf inner (.warn ("Unknown keyword: " ++ name)) := by
  refine ⟨rfl, fun keyword path' segments' => ?_, fun name' path' segments' _ => ?_⟩
  · exact absurd (segments'.unique segments).1 (unnamed keyword)
  · rw [(segments'.unique segments).1]
    rfl

/-- A reference that misses stays as it is, with one warning. -/
theorem resolves_of_misses (misses : ∀ (keyword : Keyword) path,
    Segments inner keyword.name path → Misses tables keyword path) :
    ∃ diagnostic, Resolves tables inner (String.ofList (expression inner)) [diagnostic] ∧
      WarnsOf inner diagnostic := by
  obtain ⟨name, path, segments⟩ := exists_segments inner
  cases hname : Keyword.ofName? name with
  | none =>
    have unnamed := Keyword.ofName?_eq_none_iff.1 hname
    exact ⟨_, .unknown segments unnamed, warnsOf_unknown segments unnamed⟩
  | some keyword =>
    obtain rfl := Keyword.ofName?_eq_some_iff.1 hname
    have hmiss := misses keyword path segments
    have hresolve := hmiss.resolve_eq
    rw [segments.wrap_eq hmiss.ne_nil] at hresolve
    have hresolves : Resolves tables inner _ _ := .known segments
    rw [hresolve] at hresolves
    exact ⟨_, hresolves, warnsOf_absent segments⟩

/-! ## A text -/

theorem forall₂_flatMap {α β : Type} {R : α → β → Prop} {f : α → List β} {xs : List α}
    (h : ∀ x ∈ xs, ∃ y, f x = [y] ∧ R x y) : List.Forall₂ R xs (xs.flatMap f) := by
  induction xs with
  | nil => exact .nil
  | cons x xs ih =>
    rw [List.forall_mem_cons] at h
    obtain ⟨y, hy, hxy⟩ := h.1
    rw [List.flatMap_cons, hy, List.singleton_append]
    exact .cons hxy (ih h.2)

/-- A text in which all references miss stays as it is, and each of them has one warning, in their
order. Naming the segments of a reference again spells the reference, whatever its text. -/
theorem resolveReferences_of_misses {code : String} {parts : List Part} {last : List Char}
    (splits : Splits code.toList parts last)
    (misses : ∀ part ∈ parts, ∀ (keyword : Keyword) path,
      Segments part.inner keyword.name path → Misses tables keyword path) :
    (resolveReferences tables code).code = code ∧
      List.Forall₂ (fun part diagnostic => WarnsOf part.inner diagnostic) parts
        (resolveReferences tables code).logs ∧
      ∀ inner name path, Segments inner name path → path ≠ [] →
        wrap (joinSegments '/' path) name = String.ofList (expression inner) := by
  obtain ⟨hcode, hlogs⟩ := resolveReferences_of_splits splits tables
  refine ⟨?_, ?_, fun _ _ _ segments hne => segments.wrap_eq hne⟩
  · have hkept : ∀ part ∈ parts,
        part.before ++ (resolveInner tables part.inner).text.toList = part.text := by
      intro part hmem
      obtain ⟨_, hresolves, _⟩ := resolves_of_misses (misses part hmem)
      rw [← (resolves_iff.1 hresolves).1, String.toList_ofList, Part.text]
    rw [← String.toList_inj, hcode, splits.eq_joined]
    exact congrArg (· ++ last) (congrArg List.flatten (List.map_congr_left hkept))
  · rw [hlogs]
    refine forall₂_flatMap fun part hmem => ?_
    obtain ⟨diagnostic, hresolves, hwarns⟩ := resolves_of_misses (misses part hmem)
    exact ⟨diagnostic, (resolves_iff.1 hresolves).2.symm, hwarns⟩

/-- A value of the configuration, an asset and an alias. -/
def oneOfEach : ReferenceTables where
  config := .object [("a", .array [.bool true])]
  assets := ⟨[("b", "Qm")], by decide⟩
  aliases := ⟨[("n", "text")], by decide⟩

/-- References with empty segments, a line break and an opening of a reference in them. -/
def oddSpellings : String :=
  "1@\x7bconfig/a/1\x7d@\x7bipfs//b\n\x7d@\x7b\x7d@\x7balias/@\x7bn/\x7d@\x7benv\x7d@\x7b"

theorem resolveReferences_of_misses_oddSpellings :
    (resolveReferences oneOfEach oddSpellings).code = oddSpellings ∧
      (resolveReferences oneOfEach oddSpellings).logs =
        [.warn "Config value not found: @\x7bconfig/a/1\x7d",
          .warn "IPFS file or mapping not found: @\x7bipfs//b\n\x7d",
          .warn "Imported alias not found: @\x7balias/@\x7bn/\x7d",
          .warn "Unknown keyword: env"] := by
  have splits : Splits oddSpellings.toList
      [⟨"1".toList, "config/a/1".toList⟩, ⟨[], "ipfs//b\n".toList⟩,
        ⟨"@\x7b\x7d".toList, "alias/@\x7bn/".toList⟩, ⟨[], "env".toList⟩] "@\x7b".toList := by
    decide +kernel
  refine ⟨(resolveReferences_of_misses splits ?_).1, by decide +kernel⟩
  intro part hmem keyword path segments
  simp only [List.mem_cons, List.not_mem_nil, or_false] at hmem
  rcases hmem with rfl | rfl | rfl | rfl
  · obtain ⟨rfl, rfl⟩ : keyword = .config ∧ path = ["a", "1"] :=
      segments.eq_of_name (segments_iff.2 (by decide +kernel))
    exact ⟨by decide, by decide, by decide, by decide +kernel⟩
  · obtain ⟨rfl, rfl⟩ : keyword = .ipfs ∧ path = ["", "b\n"] :=
      segments.eq_of_name (segments_iff.2 (by decide +kernel))
    exact ⟨by decide, by decide, by decide, by decide +kernel⟩
  · obtain ⟨rfl, rfl⟩ : keyword = .alias ∧ path = ["@\x7bn", ""] :=
      segments.eq_of_name (segments_iff.2 (by decide +kernel))
    exact ⟨by decide, by decide, by decide, by decide +kernel⟩
  · have unknown : Segments "env".toList "env" [] := segments_iff.2 (by decide +kernel)
    exact absurd (segments.unique unknown).1 (by cases keyword <;> decide)

end Reference

end WidgetPipeline
