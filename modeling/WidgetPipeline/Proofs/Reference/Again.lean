import WidgetPipeline.Proofs.Reference.Resolution
import WidgetPipeline.Proofs.Reference.Seams

/-!
# Resolving twice

What a resolution leaves is read again piece by piece: a reference that was not found has left an
expression for the same path, which is not found again, and the other replacements have no
references in them if they are inert. So a second resolution changes nothing, and reports what the
first one reported except for modules, whose addresses are there either way
(`resolveReferences_again`). The bare reference to the configuration is an exception: the expression
it leaves asks for the empty key.
-/

namespace WidgetPipeline

namespace Reference

/-- One of the references of the text has this text in its braces. -/
def RefersTo (cs inner : List Char) : Prop :=
  ∃ parts last, Splits cs parts last ∧ ∃ part ∈ parts, part.inner = inner

/-- The diagnostic reports that a module is not there. -/
def reportsModule (diagnostic : Diagnostic) : Bool :=
  "Imported module not found locally".toList.isPrefixOf diagnostic.message.toList

variable {tables : ReferenceTables} {cs inner : List Char} {keyword : Keyword} {path : List String}

theorem refersTo_iff : RefersTo cs inner ↔ .reference inner ∈ pieces cs := by
  obtain ⟨parts, last, splits, hpieces⟩ := exists_splits cs
  have hmem : .reference inner ∈ piecesOf parts last ↔ ∃ part ∈ parts, part.inner = inner := by
    simp [piecesOf, eq_comm]
  rw [hpieces, hmem]
  constructor
  · rintro ⟨parts', last', splits', h⟩
    obtain ⟨rfl, rfl⟩ := splits.unique splits'
    exact h
  · intro h
    exact ⟨parts, last, splits, h⟩

theorem Splits.isInner {parts : List Part} {last : List Char} (h : Splits cs parts last) :
    ∀ part ∈ parts, IsInner part.inner := by
  induction h with
  | last => simp
  | part _ inner _ _ ih => simpa [inner] using ih

theorem RefersTo.isInner (h : RefersTo cs inner) : IsInner inner := by
  obtain ⟨parts, last, splits, part, hmem, rfl⟩ := h
  exact splits.isInner part hmem

/-! ## Expressions that are left -/

/-- What stands in the braces of the expression that names a path again. -/
def placeholder (keyword : Keyword) (path : List String) : List Char :=
  keyword.name.toList ++ '/' :: (joinSegments '/' path).toList

theorem segments_placeholder (hne : path ≠ []) (plain : ∀ segment ∈ path, '/' ∉ segment.toList) :
    Segments (placeholder keyword path) keyword.name path := by
  constructor
  · obtain ⟨first, rest, rfl⟩ := List.exists_cons_of_ne_nil hne
    simp [joinSegments, placeholder]
  · have hname : '/' ∉ keyword.name.toList := by cases keyword <;> decide
    simpa using ⟨hname, plain⟩

theorem isInner_placeholder (plain : ∀ segment ∈ path, '}' ∉ segment.toList) :
    IsInner (placeholder keyword path) := by
  have hname : '}' ∉ keyword.name.toList := by cases keyword <;> decide
  have hpath : '}' ∉ (joinSegments '/' path).toList := by
    rw [joinSegments, String.toList_ofList, Text.mem_intercalate_iff (by decide)]
    simpa using plain
  constructor
  · simp [placeholder]
  · simp [placeholder, hname, hpath]

/-- A text without closing braces has none in its segments. -/
theorem Segments.not_mem {name : String} (segments : Segments inner name path)
    (h : '}' ∉ inner) : ∀ segment ∈ name :: path, '}' ∉ segment.toList := by
  intro segment hmem hbrace
  rw [← segments.joined, joinSegments, String.toList_ofList,
    Text.mem_intercalate_iff (by decide)] at h
  exact h ⟨segment.toList, List.mem_map_of_mem hmem, hbrace⟩

/-- The path that is named by the expression left for a path. It has a segment at least, except for
the empty path in the configuration. -/
def Keyword.leftPath : Keyword → List String → List String
  | .config, path => configPath path
  | _, [] => [""]
  | _, path => path

theorem configPath_cases (path : List String) :
    configPath path = ["accounts", "deploy"] ∨ configPath path = path := by
  unfold configPath
  split
  · exact .inl rfl
  · exact .inr rfl

theorem configPath_configPath (path : List String) :
    configPath (configPath path) = configPath path := by
  rcases configPath_cases path with h | h
  · rw [h]
    rfl
  · rw [h, h]

namespace Keyword

theorem leftPath_ne_nil (hbare : keyword = .config → path ≠ []) : keyword.leftPath path ≠ [] := by
  cases keyword with
  | config =>
    rcases configPath_cases path with h | h
    · simp [leftPath, h]
    · simpa [leftPath, h] using hbare
  | _ => cases path <;> simp [leftPath]

/-- The expression names segments of the path, the deploying account, and the empty segment. -/
theorem not_mem_leftPath {c : Char}
    (hfixed : ∀ segment ∈ ["accounts", "deploy", ""], c ∉ segment.toList)
    (hpath : ∀ segment ∈ path, c ∉ segment.toList) :
    ∀ segment ∈ keyword.leftPath path, c ∉ segment.toList := by
  intro segment hmem
  cases keyword with
  | config =>
    rcases configPath_cases path with h | h
    · have hsegment : segment ∈ ["accounts", "deploy"] := by simpa [leftPath, h] using hmem
      exact hfixed segment (List.mem_append_left [""] hsegment)
    · exact hpath segment (by simpa [leftPath, h] using hmem)
  | _ =>
    cases path with
    | nil => exact hfixed segment (List.mem_append_right ["accounts", "deploy"] hmem)
    | cons first rest => exact hpath segment hmem

theorem joinSegments_leftPath (hconfig : keyword ≠ .config) (separator : Char)
    (path : List String) :
    joinSegments separator (keyword.leftPath path) = joinSegments separator path := by
  cases keyword with
  | config => contradiction
  | _ => cases path <;> rfl

/-- The expression is resolved like the reference that it is left for. -/
theorem resolve_leftPath (keyword : Keyword) (tables : ReferenceTables) (path : List String) :
    keyword.resolve tables (keyword.leftPath path) = keyword.resolve tables path := by
  cases keyword with
  | config => simp [resolve, resolveConfig, leftPath, configPath_configPath]
  | _ => cases path <;> rfl

theorem text_of_miss (hmodule : keyword ≠ .module)
    (hmiss : (keyword.resolve tables path).miss ≠ none) :
    (keyword.resolve tables path).text.toList =
      expression (placeholder keyword (keyword.leftPath path)) := by
  cases keyword with
  | module => contradiction
  | config =>
    simp only [resolve, resolveConfig] at hmiss ⊢
    split at hmiss
    · simp at hmiss
    · simp [wrap, leftPath, placeholder]
  | ipfs =>
    have hjoin := joinSegments_leftPath (by decide : Keyword.ipfs ≠ .config) '/' path
    simp only [resolve, resolveAsset] at hmiss ⊢
    split at hmiss
    · simp at hmiss
    · simp [wrap, placeholder, hjoin]
  | _ =>
    have hjoin := joinSegments_leftPath (by decide : Keyword.alias ≠ .config) '/' path
    simp only [resolve, resolveAlias] at hmiss ⊢
    split at hmiss
    · simp at hmiss
    · simp [wrap, placeholder, hjoin]

end Keyword

/-! ## Reports -/

theorem reportsModule_append (start text : String) :
    reportsModule (.warn (start ++ text)) =
      "Imported module not found locally".toList.isPrefixOf (start.toList ++ text.toList) := by
  rw [← String.toList_append]
  rfl

theorem reportsModule_unknownKeyword (name : String) :
    reportsModule (.warn (Miss.unknownKeyword name).message) = false :=
  reportsModule_append "Unknown keyword: " name

/-- Of what is not found in a table, only modules are reported as modules. -/
theorem reportsModule_absent (keyword : Keyword) (expression : String) :
    reportsModule (.warn (Miss.absent keyword expression).message) =
      decide (keyword = .module) := by
  cases keyword with
  | config => exact reportsModule_append "Config value not found: " expression
  | module => exact reportsModule_append "Imported module not found locally: " expression
  | ipfs => exact reportsModule_append "IPFS file or mapping not found: " expression
  | _ => exact reportsModule_append "Imported alias not found: " expression

theorem Keyword.miss_eq {miss : Miss} (h : (keyword.resolve tables path).miss = some miss) :
    ∃ expression, miss = .absent keyword expression := by
  cases keyword
  all_goals
    simp only [resolve, resolveConfig, resolveModule, resolveAsset, resolveAlias] at h
    split at h
    · simp at h
    · exact ⟨_, (Option.some.inj h).symm⟩

theorem Keyword.reportsModule_of_mem_logs {diagnostic : Diagnostic}
    (h : diagnostic ∈ (keyword.resolve tables path).logs) :
    reportsModule diagnostic = decide (keyword = .module) := by
  obtain ⟨miss, hmiss, rfl⟩ := Option.map_eq_some_iff.1 (Option.mem_toList.1 h)
  obtain ⟨expression, rfl⟩ := Keyword.miss_eq hmiss
  exact reportsModule_absent keyword expression

/-! ## One reference -/

/-- What a second resolution finds in place of a reference: an inert text, or a reference that
resolves in the same way. Only a missing module is reported of an inert text. -/
inductive Settles (tables : ReferenceTables) (inner : List Char) : Prop
  | inert (inert : Inert (resolveInner tables inner).text.toList)
      (logs : ∀ diagnostic ∈ (resolveInner tables inner).logs, reportsModule diagnostic = true)
  | left {again : List Char} (isInner : IsInner again)
      (text : (resolveInner tables inner).text.toList = expression again)
      (same : resolveInner tables again = resolveInner tables inner)
      (logs : ∀ diagnostic ∈ (resolveInner tables inner).logs, reportsModule diagnostic = false)

/-- A reference into a table settles if its replacement is inert, as far as it was found there or is
the address of a module. -/
theorem Keyword.settles (segments : Segments inner keyword.name path) (isInner : IsInner inner)
    (bare : inner ≠ Keyword.config.name.toList)
    (inert : keyword = .module ∨ (keyword.resolve tables path).miss = none →
      Inert (keyword.resolve tables path).text.toList) : Settles tables inner := by
  have hresolve : resolveInner tables inner = keyword.resolve tables path := by
    rw [resolveInner_of_segments segments, ofName?_name]
  by_cases hfound : keyword = .module ∨ (keyword.resolve tables path).miss = none
  · refine .inert (hresolve ▸ inert hfound) ?_
    rw [hresolve]
    intro diagnostic hmem
    rcases hfound with hmodule | hfound
    · simp [reportsModule_of_mem_logs hmem, hmodule]
    · simp [Resolution.logs, hfound] at hmem
  · obtain ⟨hmodule, hmiss⟩ := not_or.1 hfound
    have hbare : keyword = .config → path ≠ [] := by
      rintro rfl rfl
      exact bare segments.joined.symm
    have hbrace : ∀ segment ∈ keyword.leftPath path, '}' ∉ segment.toList :=
      not_mem_leftPath (by decide) fun segment hmem =>
        segments.not_mem isInner.2 segment (List.mem_cons_of_mem _ hmem)
    have hslash : ∀ segment ∈ keyword.leftPath path, '/' ∉ segment.toList :=
      not_mem_leftPath (by decide) fun segment hmem =>
        segments.plain segment (List.mem_cons_of_mem _ hmem)
    refine .left (isInner_placeholder hbrace) (hresolve ▸ text_of_miss hmodule hmiss) ?_ ?_
    · rw [resolveInner_of_segments (segments_placeholder (leftPath_ne_nil hbare) hslash),
        ofName?_name, hresolve]
      exact resolve_leftPath keyword tables path
    · rw [hresolve]
      intro diagnostic hmem
      simp [reportsModule_of_mem_logs hmem, hmodule]

/-- A reference with an unknown first segment stays as it is. -/
theorem settles_of_unknown {name : String} (segments : Segments inner name path)
    (isInner : IsInner inner) (unnamed : Keyword.ofName? name = none) : Settles tables inner := by
  have hresolve : resolveInner tables inner =
      { text := String.ofList (expression inner), miss := some (.unknownKeyword name) } := by
    rw [resolveInner_of_segments segments, unnamed]
  refine .left isInner (by rw [hresolve, String.toList_ofList]) rfl ?_
  rw [hresolve]
  intro diagnostic hmem
  obtain rfl := List.mem_singleton.1 hmem
  exact reportsModule_unknownKeyword name

namespace Settles

theorem closed (h : Settles tables inner) : Closed (resolveInner tables inner).text.toList := by
  cases h with
  | inert inert => exact .inert inert
  | left isInner text =>
    rw [text]
    exact .expression isInner

/-- A second resolution keeps what stands in place of the reference. -/
theorem text_again (h : Settles tables inner) :
    ((pieces (resolveInner tables inner).text.toList).map (Piece.resolve tables)).flatMap (·.1) =
      (resolveInner tables inner).text.toList := by
  cases h with
  | inert inert =>
    rw [inert.pieces_eq]
    simp [List.flatMap_map, Piece.resolve]
  | left isInner text same =>
    rw [text, isInner.pieces_eq]
    simp [Piece.resolve, same, text]

/-- It reports the same of it, unless that is a missing module. -/
theorem logs_again (h : Settles tables inner) :
    ((pieces (resolveInner tables inner).text.toList).map (Piece.resolve tables)).flatMap (·.2) =
      (resolveInner tables inner).logs.filter fun diagnostic => !reportsModule diagnostic := by
  cases h with
  | inert inert logs =>
    have hnone : ((resolveInner tables inner).logs.filter fun diagnostic =>
        !reportsModule diagnostic) = [] := by
      simpa [List.filter_eq_nil_iff] using logs
    rw [inert.pieces_eq, hnone]
    simp [List.flatMap_map, Piece.resolve]
  | left isInner text same logs =>
    have hall : ((resolveInner tables inner).logs.filter fun diagnostic =>
        !reportsModule diagnostic) = (resolveInner tables inner).logs := by
      simpa [List.filter_eq_self] using logs
    rw [text, isInner.pieces_eq, hall]
    simp [Piece.resolve, same]

end Settles

/-! ## A text -/

variable {piece : Piece}

theorem Piece.text_again (h : ∀ inner, piece = .reference inner → Settles tables inner) :
    ((pieces (piece.resolve tables).1).map (Piece.resolve tables)).flatMap (·.1) =
      (piece.resolve tables).1 := by
  cases piece with
  | plain c => simp [Piece.resolve, pieces_single]
  | reference inner => exact (h inner rfl).text_again

theorem Piece.logs_again (h : ∀ inner, piece = .reference inner → Settles tables inner) :
    ((pieces (piece.resolve tables).1).map (Piece.resolve tables)).flatMap (·.2) =
      (piece.resolve tables).2.filter fun diagnostic => !reportsModule diagnostic := by
  cases piece with
  | plain c => simp [Piece.resolve, pieces_single]
  | reference inner => exact (h inner rfl).logs_again

/-- Where every reference settles, resolving again keeps the text, and reports the same without the
missing modules. -/
theorem resolveReferences_of_settles {code : String}
    (settles : ∀ inner, RefersTo code.toList inner → Settles tables inner) :
    resolveReferences tables (resolveReferences tables code).code =
      { code := (resolveReferences tables code).code
        logs := (resolveReferences tables code).logs.filter fun diagnostic =>
          !reportsModule diagnostic } := by
  have hpiece : ∀ piece ∈ pieces code.toList, ∀ inner, piece = .reference inner →
      Settles tables inner := by
    rintro piece hmem inner rfl
    exact settles inner (refersTo_iff.2 hmem)
  have hcode : (resolveReferences tables code).code.toList =
      (pieces code.toList).flatMap fun piece => (piece.resolve tables).1 := by
    simp [resolveReferences, List.flatMap_map]
  have hlogs : (resolveReferences tables code).logs =
      (pieces code.toList).flatMap fun piece => (piece.resolve tables).2 := by
    simp [resolveReferences, List.flatMap_map]
  have hpieces : pieces (resolveReferences tables code).code.toList =
      (pieces code.toList).flatMap fun piece => pieces (piece.resolve tables).1 := by
    rw [hcode]
    exact pieces_flatMap (fun _ => rfl) fun inner hmem =>
      (settles inner (refersTo_iff.2 hmem)).closed
  have hcodeAgain : ((pieces (resolveReferences tables code).code.toList).map
      (Piece.resolve tables)).flatMap (·.1) = (resolveReferences tables code).code.toList := by
    rw [hpieces, List.map_flatMap, List.flatMap_assoc, hcode]
    exact congrArg List.flatten <| List.map_congr_left fun piece hmem =>
      Piece.text_again (hpiece piece hmem)
  have hlogsAgain : ((pieces (resolveReferences tables code).code.toList).map
      (Piece.resolve tables)).flatMap (·.2) = (resolveReferences tables code).logs.filter
        fun diagnostic => !reportsModule diagnostic := by
    rw [hpieces, List.map_flatMap, List.flatMap_assoc, hlogs, List.filter_flatMap]
    exact congrArg List.flatten <| List.map_congr_left fun piece hmem =>
      Piece.logs_again (hpiece piece hmem)
  rw [resolveReferences, hcodeAgain, hlogsAgain, String.ofList_toList]

/-- Resolving what a resolution leaves changes nothing if the replacements are inert that are found
or name modules, and the configuration is not referred to without a path. What is reported again is
what was reported before, without the missing modules. -/
theorem resolveReferences_again {code : String}
    (inert : ∀ inner (keyword : Keyword) path, RefersTo code.toList inner →
      Segments inner keyword.name path →
      keyword = .module ∨ (keyword.resolve tables path).miss = none →
        Inert (keyword.resolve tables path).text.toList)
    (bare : ¬ RefersTo code.toList Keyword.config.name.toList) :
    resolveReferences tables (resolveReferences tables code).code =
      { code := (resolveReferences tables code).code
        logs := (resolveReferences tables code).logs.filter fun diagnostic =>
          !reportsModule diagnostic } := by
  refine resolveReferences_of_settles fun inner hrefers => ?_
  have hbare : inner ≠ Keyword.config.name.toList := by
    rintro rfl
    exact bare hrefers
  obtain ⟨name, path, segments⟩ := exists_segments inner
  cases hname : Keyword.ofName? name with
  | none => exact settles_of_unknown segments hrefers.isInner hname
  | some keyword =>
    obtain rfl := Keyword.ofName?_eq_some_iff.1 hname
    exact Keyword.settles segments hrefers.isInner hbare
      (inert inner keyword path hrefers segments)

/-- One alias. -/
def oneAlias : ReferenceTables := { aliases := ⟨[("n", "v")], by decide⟩ }

/-- A module that is not there, the bare alias, and the alias, with nothing between them. -/
def adjacentReferences : String := "@\x7bmodule/a\x7d@\x7balias\x7d@\x7balias/n\x7d"

theorem resolveReferences_again_adjacentReferences :
    resolveReferences oneAlias (resolveReferences oneAlias adjacentReferences).code =
      { code := "/widget/a.module@\x7balias/\x7dv"
        logs := [.warn "Imported alias not found: @\x7balias/\x7d"] } := by
  have hpieces : pieces adjacentReferences.toList =
      [.reference "module/a".toList, .reference "alias".toList, .reference "alias/n".toList] := by
    decide +kernel
  have hrefers : ∀ inner, RefersTo adjacentReferences.toList inner →
      inner = "module/a".toList ∨ inner = "alias".toList ∨ inner = "alias/n".toList := by
    intro inner h
    rw [refersTo_iff, hpieces] at h
    simpa using h
  have inert : ∀ inner (keyword : Keyword) path, RefersTo adjacentReferences.toList inner →
      Segments inner keyword.name path →
      keyword = .module ∨ (keyword.resolve oneAlias path).miss = none →
        Inert (keyword.resolve oneAlias path).text.toList := by
    intro inner keyword path h segments hfound
    have hcut := segments_iff.1 segments
    rcases hrefers inner h with rfl | rfl | rfl
    · obtain ⟨rfl, rfl⟩ : keyword = .module ∧ path = ["a"] := by
        cases keyword <;> simp_all [Text.pieces, Keyword.name]
      decide +kernel
    · obtain ⟨rfl, rfl⟩ : keyword = .alias ∧ path = [] := by
        cases keyword <;> simp_all [Text.pieces, Keyword.name]
      exact absurd hfound (by decide +kernel)
    · obtain ⟨rfl, rfl⟩ : keyword = .alias ∧ path = ["n"] := by
        cases keyword <;> simp_all [Text.pieces, Keyword.name]
      decide +kernel
  rw [resolveReferences_again inert]
  · decide +kernel
  · intro h
    rcases hrefers _ h with h | h | h
    all_goals simp [Keyword.name] at h

end Reference

end WidgetPipeline
