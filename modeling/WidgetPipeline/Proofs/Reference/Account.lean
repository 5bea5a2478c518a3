import WidgetPipeline.Proofs.Reference.Configuration

/-!
# The account that deploys

A reference to `account` in the configuration, whatever its path goes on with, is short for the path
of the account that deploys, and a text resolves in the same way with that path spelled out. The
addresses of modules begin with the account, which is looked up for them in another way than for
references. Both ways lead to the same value (`lookup?_accounts`), so that references and addresses
agree (`resolveReferences_account`).
-/

namespace WidgetPipeline

namespace Reference

open Json

variable {tables : ReferenceTables} {tree child value : Json} {key segment account : String}
  {path : List String} {inner cs last : List Char} {parts : List Part}

/-- The reference asks for the account that deploys in its short form. -/
def ShortAccount (inner : List Char) : Prop :=
  ∃ path, Segments inner Keyword.config.name ("account" :: path)

theorem shortAccount_iff :
    ShortAccount inner ↔
      ((Text.pieces '/' inner).map String.ofList).take 2 = [Keyword.config.name, "account"] := by
  simp only [ShortAccount, segments_iff]
  constructor
  · rintro ⟨path, hpath⟩
    rw [hpath, List.take_succ_cons, List.take_succ_cons, List.take_zero]
  · intro h
    exact ⟨((Text.pieces '/' inner).map String.ofList).drop 2, by
      simpa [h] using (List.take_append_drop 2 ((Text.pieces '/' inner).map String.ofList)).symm⟩

instance (inner : List Char) : Decidable (ShortAccount inner) :=
  decidable_of_iff _ shortAccount_iff.symm

/-- The full form of a reference to the account that deploys. Other references are left alone. -/
def spellOut (inner : List Char) : List Char :=
  if ShortAccount inner then "config/accounts/deploy".toList else inner

/-! ## The short form -/

theorem segments_accounts :
    Segments "config/accounts/deploy".toList Keyword.config.name ["accounts", "deploy"] :=
  segments_iff.2 (by decide)

/-- The short form stands for the full one. -/
theorem resolveInner_spellOut (tables : ReferenceTables) (inner : List Char) :
    resolveInner tables (spellOut inner) = resolveInner tables inner := by
  by_cases hshort : ShortAccount inner
  · obtain ⟨path, segments⟩ := hshort
    rw [spellOut, if_pos ⟨path, segments⟩, resolveInner_of_segments segments,
      resolveInner_of_segments segments_accounts, Keyword.ofName?_name]
    rfl
  · rw [spellOut, if_neg hshort]

theorem isInner_spellOut (h : IsInner inner) : IsInner (spellOut inner) := by
  rw [spellOut]
  split
  · exact ⟨by decide, by decide⟩
  · exact h

/-! ## Other references in place of those of a text -/

/-- The piece with another reference in place of the one that it is. -/
def Piece.mapInner (f : List Char → List Char) : Piece → Piece
  | .plain c => .plain c
  | .reference inner => .reference (f inner)

/-- The part with another reference in place of its own. -/
def Part.mapInner (f : List Char → List Char) (part : Part) : Part := ⟨part.before, f part.inner⟩

variable {f : List Char → List Char}

/-- References that give way to references leave the pieces between them as they are. -/
theorem pieces_mapInner (hf : ∀ inner, IsInner inner → IsInner (f inner)) (cs : List Char) :
    pieces ((pieces cs).flatMap fun piece => (piece.mapInner f).text) =
      (pieces cs).map (Piece.mapInner f) := by
  have hinner : ∀ inner, .reference inner ∈ pieces cs → IsInner (f inner) := fun inner hmem =>
    hf inner (refersTo_iff.2 hmem).isInner
  have hpiece : ∀ piece ∈ pieces cs, pieces (piece.mapInner f).text = [piece.mapInner f] := by
    intro piece hmem
    cases piece with
    | plain c => exact pieces_single c
    | reference inner => exact (hinner inner hmem).pieces_eq
  -- Each reference closes itself, so that the new text is cut piece by piece.
  rw [pieces_flatMap (fun _ => rfl) fun inner hmem => .expression (hinner inner hmem),
    List.map_eq_flatMap]
  exact congrArg List.flatten (List.map_congr_left hpiece)

theorem flatMap_text_piecesOf (parts : List Part) (last : List Char) :
    (piecesOf parts last).flatMap Piece.text = parts.flatMap Part.text ++ last := by
  have hplain : ∀ text : List Char, (text.map Piece.plain).flatMap Piece.text = text := by
    simp [List.flatMap_map, Piece.text]
  have hpart : ∀ inner, [Piece.reference inner].flatMap Piece.text = expression inner := fun _ =>
    List.flatMap_singleton ..
  simp only [piecesOf, List.flatMap_append, List.flatMap_assoc, hplain, hpart]
  rfl

theorem map_mapInner_piecesOf (f : List Char → List Char) (parts : List Part) (last : List Char) :
    (piecesOf parts last).map (Piece.mapInner f) = piecesOf (parts.map (Part.mapInner f)) last := by
  have hplain : Piece.mapInner f ∘ Piece.plain = Piece.plain := rfl
  simp [piecesOf, List.map_flatMap, List.flatMap_map, Part.mapInner, Piece.mapInner, hplain]

theorem Splits.flatMap_text_mapInner (h : Splits cs parts last) (f : List Char → List Char) :
    ((pieces cs).flatMap fun piece => (piece.mapInner f).text) =
      (parts.map (Part.mapInner f)).flatMap Part.text ++ last := by
  rw [h.pieces_eq, ← flatMap_text_piecesOf, ← map_mapInner_piecesOf, List.flatMap_map]

/-- A text whose references give way to references splits at those. -/
theorem Splits.mapInner (h : Splits cs parts last)
    (hf : ∀ inner, IsInner inner → IsInner (f inner)) :
    Splits ((parts.map (Part.mapInner f)).flatMap Part.text ++ last) (parts.map (Part.mapInner f))
      last := by
  rw [splits_iff, ← h.flatMap_text_mapInner, pieces_mapInner hf, h.pieces_eq,
    map_mapInner_piecesOf, partsOf_piecesOf]

/-- Where references give way to references that resolve to the same, so does the text. -/
theorem Splits.resolveReferences_mapInner {code : String} (h : Splits code.toList parts last)
    (hf : ∀ inner, IsInner inner → IsInner (f inner))
    (hsame : ∀ inner, resolveInner tables (f inner) = resolveInner tables inner) :
    resolveReferences tables
        (String.ofList ((parts.map (Part.mapInner f)).flatMap Part.text ++ last)) =
      resolveReferences tables code := by
  have hpiece : Piece.resolve tables ∘ Piece.mapInner f = Piece.resolve tables := by
    funext piece
    cases piece with
    | plain c => rfl
    | reference inner => simp only [Function.comp_apply, Piece.mapInner, Piece.resolve, hsame]
  simp only [resolveReferences, String.toList_ofList, ← h.flatMap_text_mapInner,
    pieces_mapInner hf, List.map_map, hpiece]

/-! ## The two ways to the account -/

/-- The value under a key that spells no position is found in the one way or the other. -/
theorem child?_eq_get? (h : ∀ n, ¬ Text.Spells segment.toList n) :
    child? tree segment = tree.get? segment := by
  cases tree with
  | array items => exact child?_eq_none_iff.2 (.noPosition h)
  | _ => rfl

theorem lookup?_accounts (tree : Json) :
    lookup? tree ["accounts", "deploy"] = (tree.get? "accounts").bind (·.get? "deploy") := by
  have haccounts : ∀ n, ¬ Text.Spells "accounts".toList n := fun _ =>
    Text.not_spells_of_mem (by decide : 'a' ∈ "accounts".toList) (by decide) (by decide)
  have hdeploy : ∀ n, ¬ Text.Spells "deploy".toList n := fun _ =>
    Text.not_spells_of_mem (by decide : 'd' ∈ "deploy".toList) (by decide) (by decide)
  simp [lookup?, child?_eq_get? haccounts, child?_eq_get? hdeploy]

theorem get?_eq_some_iff : tree.get? key = some child ↔ Child tree (.key key) child := by
  constructor
  · intro h
    cases tree with
    | object fields =>
      rw [get?, Entries.find?_eq_lookup] at h
      exact .key h
    | _ => simp [get?] at h
  · rintro ⟨field⟩
    rw [get?, Entries.find?_eq_lookup, field]

/-- What is found under the keys of the account is the value that the steps to them lead to. -/
theorem lookup?_accounts_eq_some_iff :
    lookup? tree ["accounts", "deploy"] = some value ↔
      Subvalue tree [.key "accounts", .key "deploy"] value := by
  simp only [lookup?_accounts, Option.bind_eq_some_iff, get?_eq_some_iff]
  constructor
  · rintro ⟨accounts, first, second⟩
    exact .further first (.further second .here)
  · intro h
    cases h with
    | further first rest =>
      cases rest with
      | further second rest =>
        cases rest
        exact ⟨_, first, second⟩

theorem deployAccount_eq (tables : ReferenceTables) :
    tables.deployAccount =
      ((lookup? tables.config ["accounts", "deploy"]).bind Json.string?).getD "" := by
  rw [lookup?_accounts]
  rfl

theorem deployAccount_of_subvalue
    (h : Subvalue tables.config [.key "accounts", .key "deploy"] (.string account)) :
    tables.deployAccount = account := by
  rw [deployAccount_eq, lookup?_accounts_eq_some_iff.2 h]
  rfl

theorem deployAccount_of_not_subvalue
    (h : ∀ account, ¬ Subvalue tables.config [.key "accounts", .key "deploy"] (.string account)) :
    tables.deployAccount = "" := by
  rw [deployAccount_eq]
  cases hvalue : lookup? tables.config ["accounts", "deploy"] with
  | none => rfl
  | some value =>
    cases value with
    | string account => exact absurd (lookup?_accounts_eq_some_iff.1 hvalue) (h account)
    | _ => rfl

theorem resolveInner_accounts
    (segments : Segments inner Keyword.config.name ["accounts", "deploy"])
    (h : Subvalue tables.config [.key "accounts", .key "deploy"] (.string account)) :
    resolveInner tables inner = { text := account } := by
  rw [resolveInner_config segments (by decide), lookup?_accounts_eq_some_iff.2 h]
  rfl

theorem text_module (segments : Segments inner Keyword.module.name path) :
    (resolveInner tables inner).text =
      tables.deployAccount ++ "/widget/" ++ joinSegments '.' path ++ ".module" := by
  rw [resolveInner_of_segments segments, Keyword.ofName?_name]
  rfl

/-- The short form of the account can be spelled out everywhere in a text. Where the configuration
has a text for the account, either form resolves to it and the addresses of modules begin with it;
where it has none, they begin with nothing. -/
theorem resolveReferences_account (tables : ReferenceTables) :
    (∀ code : String, ∃ parts last spelled, Splits code.toList parts last ∧
      spelled = parts.map (Part.mapInner spellOut) ∧
      Splits (spelled.flatMap Part.text ++ last) spelled last ∧
      resolveReferences tables (String.ofList (spelled.flatMap Part.text ++ last)) =
        resolveReferences tables code) ∧
    (∀ account, Subvalue tables.config [.key "accounts", .key "deploy"] (.string account) →
      (∀ inner, ShortAccount inner ∨ Segments inner "config" ["accounts", "deploy"] →
        resolveInner tables inner = { text := account }) ∧
      ∀ inner path, Segments inner "module" path →
        (resolveInner tables inner).text =
          account ++ "/widget/" ++ joinSegments '.' path ++ ".module") ∧
    ((∀ account, ¬ Subvalue tables.config [.key "accounts", .key "deploy"] (.string account)) →
      ∀ inner path, Segments inner "module" path →
        (resolveInner tables inner).text = "/widget/" ++ joinSegments '.' path ++ ".module") := by
  refine ⟨fun code => ?_, fun account hsub => ⟨?_, ?_⟩, ?_⟩
  · obtain ⟨parts, last, splits, -⟩ := exists_splits code.toList
    exact ⟨parts, last, _, splits, rfl, splits.mapInner fun _ => isInner_spellOut,
      splits.resolveReferences_mapInner (fun _ => isInner_spellOut) (resolveInner_spellOut tables)⟩
  · rintro inner (hshort | segments)
    · rw [← resolveInner_spellOut, spellOut, if_pos hshort]
      exact resolveInner_accounts segments_accounts hsub
    · exact resolveInner_accounts segments hsub
  · intro inner path segments
    rw [text_module segments, deployAccount_of_subvalue hsub]
  · intro hnone inner path segments
    rw [text_module segments, deployAccount_of_not_subvalue hnone, String.empty_append]

/-- A configuration with a text for the account. -/
def deployed : ReferenceTables where
  config := .object [("accounts", .object [("deploy", .string "a.near")])]

/-- A configuration with a truth value where the account should be. -/
def undeployed : ReferenceTables where
  config := .object [("accounts", .object [("deploy", .bool true)])]

theorem resolveReferences_account_deployed :
    resolveInner deployed "config/account/x".toList = { text := "a.near" } ∧
      (resolveInner deployed "module/b/c".toList).text = "a.near/widget/b.c.module" ∧
      (resolveInner undeployed "module/b/c".toList).text = "/widget/b.c.module" := by
  have hsub : Subvalue deployed.config [.key "accounts", .key "deploy"] (.string "a.near") :=
    .further (.key rfl) (.further (.key rfl) .here)
  have hnone : ∀ account,
      ¬ Subvalue undeployed.config [.key "accounts", .key "deploy"] (.string account) := by
    intro account h
    have hvalue := lookup?_accounts_eq_some_iff.2 h
    have hbool : lookup? undeployed.config ["accounts", "deploy"] = some (.bool true) := rfl
    rw [hbool] at hvalue
    cases hvalue
  have segments : Segments "module/b/c".toList "module" ["b", "c"] :=
    segments_iff.2 (by decide)
  obtain ⟨found, address⟩ := (resolveReferences_account deployed).2.1 "a.near" hsub
  have bare := (resolveReferences_account undeployed).2.2 hnone
  refine ⟨found _ (.inl (by decide)), ?_, ?_⟩
  · rw [address _ _ segments]
    decide
  · rw [bare _ _ segments]
    decide

end Reference

end WidgetPipeline
