import WidgetPipeline.Proofs.Export.Rewriting
import WidgetPipeline.Proofs.Script.Reading

/-!
# A default export that is named by an identifier

The scanner and the patterns do not have the same characters in a word. An identifier of the scanner
that is a name for the patterns becomes a call; one with a dollar sign in it, or with a letter that
the patterns do not know, is only returned (`toFunctionBody_identifier`).
-/

namespace WidgetPipeline.Export

/-- A word of letters, decimal digits, low lines and dollar signs that begins with no digit. -/
structure IsIdentifier (name : List Char) : Prop where
  ne_nil : name ≠ []
  spelled : ∀ c ∈ name, Text.alphabeticRanges.has c = true ∨
    Text.decimalDigitRanges.has c = true ∨ c = '_' ∨ c = '$'
  first : ∀ c ∈ name.head?, Text.decimalDigitRanges.has c = false

variable {name rest : List Char} {c : Char}

theorem isIdentifier_iff :
    IsIdentifier name ↔ name ≠ [] ∧
      (name.all fun c => Text.alphabeticRanges.has c || Text.decimalDigitRanges.has c ||
        c == '_' || c == '$') ∧ name.head?.all fun c => !Text.decimalDigitRanges.has c := by
  have hspelled : (name.all fun c => Text.alphabeticRanges.has c || Text.decimalDigitRanges.has c ||
      c == '_' || c == '$') = true ↔ ∀ c ∈ name, Text.alphabeticRanges.has c = true ∨
        Text.decimalDigitRanges.has c = true ∨ c = '_' ∨ c = '$' := by
    simp [or_assoc]
  have hfirst : (name.head?.all fun c => !Text.decimalDigitRanges.has c) = true ↔
      ∀ c ∈ name.head?, Text.decimalDigitRanges.has c = false := by
    simp [Option.all_eq_true]
  rw [hspelled, hfirst]
  exact ⟨fun h => ⟨h.ne_nil, h.spelled, h.first⟩, fun h => ⟨h.1, h.2.1, h.2.2⟩⟩

instance (name : List Char) : Decidable (IsIdentifier name) :=
  decidable_of_iff _ isIdentifier_iff.symm

/-! ## Identifiers of the scanner -/

/-- An identifier is a word for the scanner. -/
theorem IsIdentifier.isIdentPart (h : IsIdentifier name) (hc : c ∈ name) :
    Script.isIdentPart c = true := by
  rcases h.spelled c hc with hletter | hdigit | rfl | rfl
  · simp [Script.isIdentPart, Text.isAlphanumeric, hletter]
  · simp [Script.isIdentPart, Text.isAlphanumeric, hdigit]
  · simp [Script.isIdentPart]
  · simp [Script.isIdentPart]

theorem IsIdentifier.isBlank_eq_false (h : IsIdentifier name) (hc : c ∈ name) :
    Text.isBlank c = false := by
  rw [Bool.eq_false_iff]
  intro hblank
  simpa [Script.isIdentPart_of_isBlank hblank] using h.isIdentPart hc

theorem IsIdentifier.semicolon_not_mem (h : IsIdentifier name) : ';' ∉ name := by
  intro hmem
  exact absurd (h.isIdentPart hmem) (by decide)

/-- Of the characters of an identifier the patterns miss the dollar sign and what version 17 of the
standard added. -/
theorem IsIdentifier.isWordChar_iff (h : IsIdentifier name) (hc : c ∈ name) :
    Text.isWordChar c = true ↔ c ≠ '$' ∧ Text.recentWordRanges.has c = false := by
  have hdollar : Text.alphabeticRanges.has '$' = false ∧ Text.decimalDigitRanges.has '$' = false ∧
      Text.isWordChar '$' = false := by decide
  have hline : Text.connectorRanges.has '_' = true := by decide
  rcases h.spelled c hc with hletter | hdigit | rfl | rfl
  · have hne : c ≠ '$' := by
      rintro rfl
      simp [hdollar] at hletter
    simp [Text.isWordChar, hletter, hne]
  · have hne : c ≠ '$' := by
      rintro rfl
      simp [hdollar] at hdigit
    simp [Text.isWordChar, hdigit, hne]
  · simp [Text.isWordChar, hline]
  · simp [hdollar]

theorem IsIdentifier.any_missed_iff (h : IsIdentifier name) :
    (name.any fun c => c == '$' || Text.recentWordRanges.has c) = true ↔
      ¬ ∀ c ∈ name, Text.isWordChar c = true := by
  simp only [List.any_eq_true, Classical.not_forall, exists_prop]
  refine exists_congr fun c => and_congr_right fun hmem => ?_
  rw [h.isWordChar_iff hmem, Classical.not_and_iff_not_or_not, Classical.not_not,
    Bool.not_eq_false, Bool.or_eq_true, beq_iff_eq]

/-- In front of a semicolon, an identifier is a name only as a whole. -/
theorem IsIdentifier.nameAhead_iff (h : IsIdentifier name) {found more : List Char} :
    NameAhead (name ++ ';' :: rest) found more ↔
      found = name ∧ more = rest ∧ ∀ c ∈ name, Text.isWordChar c = true := by
  have hends : ∀ run behind : List Char, ';' ∉ run →
      (run ++ ';' :: behind).takeWhile (· != ';') = run := fun run behind hrun =>
    Text.takeWhile_run (fun c hmem => by simpa using ne_of_mem_of_not_mem hmem hrun) (by simp)
  constructor
  · rintro ⟨hcut, -, word⟩
    have hfound : ';' ∉ found := fun hmem => absurd (word _ hmem) (by decide)
    obtain rfl : found = name := by
      rw [← hends found more hfound, ← hcut, hends name rest h.semicolon_not_mem]
    exact ⟨rfl, by simpa using hcut.symm, word⟩
  · rintro ⟨rfl, rfl, word⟩
    exact ⟨rfl, h.ne_nil, word⟩

/-! ## The export -/

/-- The only phrase of a text is the one that an identifier follows. -/
theorem splits_identifier {before name after : String} (hname : IsIdentifier name.toList)
    (hbefore : ¬ ExportsDefault before.toList) (hafter : ¬ ExportsDefault after.toList) :
    Splits (before ++ "export default " ++ name ++ ";" ++ after).toList before.toList
      [⟨"export default ".toList, name.toList ++ ';' :: after.toList⟩] := by
  have hgap : IsGap [' '] := ⟨List.cons_ne_nil ' ' [], by simp; decide⟩
  have hphrase : IsPhrase "export default ".toList := .words hgap hgap
  have hword := splits_word (fun c hmem => hname.isBlank_eq_false hmem)
  have hbehind : Splits (name.toList ++ ';' :: after.toList) (name.toList ++ ';' :: after.toList)
      [] := hword.append_cons (splits_of_not_exportsDefault hafter) foreign_semicolon
  have ahead : NoBlankAhead (name.toList ++ ';' :: after.toList) := by
    obtain ⟨c, others, hcons⟩ := List.exists_cons_of_ne_nil hname.ne_nil
    have hblank : Text.isBlank c = false := hname.isBlank_eq_false (by simp [hcons])
    simpa [NoBlankAhead, hcons] using hblank
  have hsplits := (splits_of_not_exportsDefault hbefore).append_phrase
    (.phrase rfl hphrase ahead hbehind)
  simpa using hsplits

/-- The export of an identifier becomes a call of it, unless a dollar sign or a character that the
patterns do not know is in the identifier: then it becomes a return of it. -/
theorem toFunctionBody_identifier (before name after : String) (hname : IsIdentifier name.toList)
    (hbefore : ¬ ExportsDefault before.toList) (hafter : ¬ ExportsDefault after.toList) :
    toFunctionBody (before ++ "export default " ++ name ++ ";" ++ after) =
      before ++ "return " ++ name ++
        (if name.toList.any fun c => c == '$' || Text.recentWordRanges.has c then ";"
          else "(props);") ++ after := by
  have hsplits := splits_identifier hname hbefore hafter
  have hwords : "return ".toList = returnWord ∧ "(props);".toList = callEnd := ⟨rfl, rfl⟩
  generalize before ++ "export default " ++ name ++ ";" ++ after = code at hsplits ⊢
  rw [← String.toList_inj]
  by_cases hword : ∀ c ∈ name.toList, Text.isWordChar c = true
  · have hfirst : ∀ other ∈ ([] : List Part), ¬ other.Named := by simp
    have hcall : (toFunctionBody code).toList =
        before.toList ++ (returnWord ++ name.toList ++ callEnd ++ after.toList ++ []) :=
      hsplits.toFunctionBody_of_named hfirst (hname.nameAhead_iff.2 ⟨rfl, rfl, hword⟩)
    rw [hcall, if_neg (mt hname.any_missed_iff.1 (not_not_intro hword))]
    simp only [String.toList_append, hwords, List.append_assoc, List.append_nil]
  · have hnone : ∀ part ∈ [(⟨"export default ".toList, name.toList ++ ';' :: after.toList⟩ : Part)],
        ¬ part.Named := by
      simp only [List.mem_singleton, forall_eq]
      rintro ⟨found, more, ahead⟩
      exact hword (hname.nameAhead_iff.1 ahead).2.2
    have hreturn : (toFunctionBody code).toList =
        before.toList ++ (returnWord ++ (name.toList ++ ';' :: after.toList ++ [])) :=
      hsplits.toFunctionBody_of_unnamed hnone
    rw [hreturn, if_pos (hname.any_missed_iff.2 hword)]
    simp only [String.toList_append, hwords, List.append_assoc, List.append_nil]
    rfl

/-- An identifier with a dollar sign in it is not called. -/
theorem toFunctionBody_identifier_dollarSign :
    IsIdentifier "$App".toList ∧ ¬ ExportsDefault "const a = 1;\n".toList ∧
      ¬ ExportsDefault "\n".toList ∧
      toFunctionBody ("const a = 1;\n" ++ "export default " ++ "$App" ++ ";" ++ "\n") =
        "const a = 1;\nreturn $App;\n" := by
  have hname : IsIdentifier "$App".toList := by decide +kernel
  have hbefore : ¬ ExportsDefault "const a = 1;\n".toList := by decide
  have hafter : ¬ ExportsDefault "\n".toList := by decide
  refine ⟨hname, hbefore, hafter, ?_⟩
  rw [toFunctionBody_identifier "const a = 1;\n" "$App" "\n" hname hbefore hafter]
  decide +kernel

theorem toFunctionBody_identifier_not_called :
    ¬ ∀ before name after : String, IsIdentifier name.toList →
      ¬ ExportsDefault before.toList → ¬ ExportsDefault after.toList →
      (before = "" ∨ before.toList.getLast? = some '\n') →
        toFunctionBody (before ++ "export default " ++ name ++ ";" ++ after) =
          before ++ "return " ++ name ++ "(props);" ++ after := by
  intro h
  have hname : IsIdentifier "$App".toList := by decide +kernel
  have hempty : ¬ ExportsDefault "".toList := by decide
  exact absurd (h "" "$App" "" hname hempty hempty (.inl rfl)) (by decide +kernel)

end WidgetPipeline.Export
