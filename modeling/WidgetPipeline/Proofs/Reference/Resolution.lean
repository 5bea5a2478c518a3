import WidgetPipeline.Proofs.Reference.Splitting
import WidgetPipeline.Proofs.Text.Pieces
import WidgetPipeline.Reference.Resolution

/-!
# What references are replaced by

The first of the segments between the slashes of a reference selects a table, and the others are the
path in it; where it names no table the reference stays as it is (`Resolves`). A reference resolves
in one way (`resolves_iff`), and a text is resolved reference by reference: what stands between them
stays, and neither that nor a replacement is read again (`resolveReferences_splits`).
-/

namespace WidgetPipeline

namespace Reference

/-- The segments of a text between its slashes: the first, and the path behind it. -/
structure Segments (text : List Char) (name : String) (path : List String) : Prop where
  joined : (joinSegments '/' (name :: path)).toList = text
  plain : ∀ segment ∈ name :: path, '/' ∉ segment.toList

/-- The replacement of a reference, and what is reported of it. -/
inductive Resolves (tables : ReferenceTables) (inner : List Char) :
    String → List Diagnostic → Prop
  | known {keyword : Keyword} {path : List String} (segments : Segments inner keyword.name path) :
      Resolves tables inner (keyword.resolve tables path).text (keyword.resolve tables path).logs
  | unknown {name : String} {path : List String} (segments : Segments inner name path)
      (unnamed : ∀ keyword : Keyword, keyword.name ≠ name) :
      Resolves tables inner (String.ofList (expression inner))
        [.warn ("Unknown keyword: " ++ name)]

variable {tables : ReferenceTables} {inner : List Char} {name text : String} {path : List String}
  {logs : List Diagnostic}

/-! ## Segments and keywords -/

theorem segments_iff :
    Segments inner name path ↔ (Text.pieces '/' inner).map String.ofList = name :: path := by
  constructor
  · rintro ⟨rfl, plain⟩
    have hcut : Text.pieces '/' (['/'].intercalate ((name :: path).map String.toList)) =
        (name :: path).map String.toList :=
      Text.pieces_intercalate (List.cons_ne_nil _ _) (by simpa using plain)
    rw [joinSegments, String.toList_ofList, hcut]
    simp
  · intro h
    have hpieces : (name :: path).map String.toList = Text.pieces '/' inner := by simp [← h]
    constructor
    · rw [joinSegments, hpieces, Text.intercalate_pieces, String.toList_ofList]
    · intro segment hmem
      have hpiece : segment.toList ∈ Text.pieces '/' inner := hpieces ▸ List.mem_map_of_mem hmem
      exact Text.not_mem_of_mem_pieces hpiece

theorem exists_segments (inner : List Char) : ∃ name path, Segments inner name path := by
  obtain ⟨first, rest, hcut⟩ := List.exists_cons_of_ne_nil (Text.pieces_ne_nil '/' inner)
  exact ⟨String.ofList first, rest.map String.ofList, segments_iff.2 (by simp [hcut])⟩

theorem Segments.unique {name' : String} {path' : List String} (h : Segments inner name path)
    (h' : Segments inner name' path') : name = name' ∧ path = path' := by
  have hcut := (segments_iff.1 h).symm.trans (segments_iff.1 h')
  simpa using hcut

theorem Keyword.ofName?_eq_some_iff {keyword : Keyword} :
    ofName? name = some keyword ↔ keyword.name = name := by
  constructor
  · intro h
    unfold ofName? at h
    split at h <;> first | contradiction | exact Option.some.inj h ▸ rfl
  · rintro rfl
    exact ofName?_name keyword

theorem Keyword.ofName?_eq_none_iff :
    ofName? name = none ↔ ∀ keyword : Keyword, keyword.name ≠ name := by
  simp [Option.eq_none_iff_forall_ne_some, ofName?_eq_some_iff]

theorem Segments.eq_of_name {keyword keyword' : Keyword} {path' : List String}
    (h : Segments inner keyword.name path) (h' : Segments inner keyword'.name path') :
    keyword = keyword' ∧ path = path' := by
  obtain ⟨hname, hpath⟩ := h.unique h'
  have hkeyword : Keyword.ofName? keyword.name = some keyword' := by
    rw [hname, Keyword.ofName?_name]
  rw [Keyword.ofName?_name] at hkeyword
  exact ⟨Option.some.inj hkeyword, hpath⟩

/-! ## One reference -/

theorem resolveInner_of_segments (h : Segments inner name path) :
    resolveInner tables inner =
      match Keyword.ofName? name with
      | some keyword => keyword.resolve tables path
      | none =>
        { text := String.ofList (expression inner), miss := some (.unknownKeyword name) } := by
  rw [resolveInner, segments_iff.1 h]
  rfl

/-- A reference resolves to what the tables say, and to nothing else. -/
theorem resolves_iff :
    Resolves tables inner text logs ↔
      text = (resolveInner tables inner).text ∧ logs = (resolveInner tables inner).logs := by
  constructor
  · rintro (⟨segments⟩ | ⟨segments, unnamed⟩)
    · rw [resolveInner_of_segments segments, Keyword.ofName?_name]
      exact ⟨rfl, rfl⟩
    · rw [resolveInner_of_segments segments, Keyword.ofName?_eq_none_iff.2 unnamed]
      exact ⟨rfl, rfl⟩
  · rintro ⟨rfl, rfl⟩
    obtain ⟨name, path, segments⟩ := exists_segments inner
    rw [resolveInner_of_segments segments]
    cases hname : Keyword.ofName? name with
    | some keyword =>
      obtain rfl := Keyword.ofName?_eq_some_iff.1 hname
      exact .known segments
    | none => exact .unknown segments (Keyword.ofName?_eq_none_iff.1 hname)

/-- A resolution has one diagnostic at most. -/
theorem Resolution.length_logs_le (resolution : Resolution) : resolution.logs.length ≤ 1 := by
  cases hmiss : resolution.miss <;> simp [logs, hmiss]

/-- What a resolution reports is a warning. -/
theorem Resolution.eq_warn_of_mem_logs {resolution : Resolution} {diagnostic : Diagnostic}
    (h : diagnostic ∈ resolution.logs) : ∃ message, diagnostic = .warn message := by
  obtain ⟨miss, _, rfl⟩ := Option.map_eq_some_iff.1 (Option.mem_toList.1 h)
  exact ⟨miss.message, rfl⟩

/-! ## A text with references -/

theorem code_piecesOf (parts : List Part) (last : List Char) :
    ((piecesOf parts last).map (Piece.resolve tables)).flatMap (·.1) =
      parts.flatMap (fun part => part.before ++ (resolveInner tables part.inner).text.toList) ++
        last := by
  simp [piecesOf, List.flatMap_map, List.flatMap_assoc, Piece.resolve]

theorem logs_piecesOf (parts : List Part) (last : List Char) :
    ((piecesOf parts last).map (Piece.resolve tables)).flatMap (·.2) =
      parts.flatMap fun part => (resolveInner tables part.inner).logs := by
  have hplain : ∀ cs : List Char, cs.flatMap (fun _ => ([] : List Diagnostic)) = [] := by
    simp [List.flatMap_eq_nil_iff]
  simp [piecesOf, List.flatMap_map, List.flatMap_assoc, Piece.resolve, hplain]

/-- The code that is left of a text that is split in parts. -/
theorem resolveReferences_of_splits {code : String} {parts : List Part} {last : List Char}
    (splits : Splits code.toList parts last) (tables : ReferenceTables) :
    (resolveReferences tables code).code.toList =
        parts.flatMap (fun part => part.before ++ (resolveInner tables part.inner).text.toList) ++
          last ∧
      (resolveReferences tables code).logs =
        parts.flatMap fun part => (resolveInner tables part.inner).logs := by
  constructor
  · simp only [resolveReferences, splits.pieces_eq, code_piecesOf, String.toList_ofList]
  · simp only [resolveReferences, splits.pieces_eq, logs_piecesOf]

/-- What is reported of a text are warnings. -/
theorem eq_warn_of_mem_resolveReferences {tables : ReferenceTables} {code : String}
    {diagnostic : Diagnostic} (h : diagnostic ∈ (resolveReferences tables code).logs) :
    ∃ message, diagnostic = .warn message := by
  obtain ⟨parts, last, splits, _⟩ := exists_splits code.toList
  rw [(resolveReferences_of_splits splits tables).2] at h
  obtain ⟨part, _, hpart⟩ := List.mem_flatMap.1 h
  exact Resolution.eq_warn_of_mem_logs hpart

/-- Every text splits in one way, whatever the tables, and is resolved part by part. The text
between references stays, each reference gives way to its replacement, and the log has what is
reported of the references in their order, a warning for each at most. -/
theorem resolveReferences_splits (code : String) :
    ∃ parts last, Splits code.toList parts last ∧
      (∀ parts' last', Splits code.toList parts' last' → parts' = parts ∧ last' = last) ∧
      code.toList = parts.flatMap (fun part => part.before ++ expression part.inner) ++ last ∧
      ∀ tables, ∃ value : List Char → String, ∃ reports : List Char → List Diagnostic,
        (∀ inner text logs,
          Resolves tables inner text logs ↔ text = value inner ∧ logs = reports inner) ∧
        (resolveReferences tables code).code.toList =
          parts.flatMap (fun part => part.before ++ (value part.inner).toList) ++ last ∧
        (resolveReferences tables code).logs = parts.flatMap (fun part => reports part.inner) ∧
        ∀ inner, (reports inner).length ≤ 1 ∧
          ∀ diagnostic ∈ reports inner, diagnostic.level = .warn := by
  obtain ⟨parts, last, splits, _⟩ := exists_splits code.toList
  refine ⟨parts, last, splits, fun _ _ splits' => splits'.unique splits, splits.eq_joined, ?_⟩
  intro tables
  obtain ⟨hcode, hlogs⟩ := resolveReferences_of_splits splits tables
  refine ⟨fun inner => (resolveInner tables inner).text,
    fun inner => (resolveInner tables inner).logs, fun _ _ _ => resolves_iff, hcode, hlogs, ?_⟩
  intro inner
  refine ⟨(resolveInner tables inner).length_logs_le, ?_⟩
  intro diagnostic hmem
  obtain ⟨message, rfl⟩ := Resolution.eq_warn_of_mem_logs hmem
  rfl

/-- Empty braces are no reference, a reference begins at the first `@` that can begin one, and a
replacement that looks like a reference stays. -/
example :
    resolveReferences { aliases := ⟨[("a", "@\x7balias/b\x7d")], by decide⟩ }
        "@\x7b\x7d@\x7bx@\x7balias/a\x7d\n@\x7balias/a\x7d@\x7balias/" =
      { code := "@\x7b\x7d@\x7bx@\x7balias/a\x7d\n@\x7balias/b\x7d@\x7balias/"
        logs := [.warn "Unknown keyword: x@\x7balias"] } := by
  decide +kernel

end Reference

end WidgetPipeline
