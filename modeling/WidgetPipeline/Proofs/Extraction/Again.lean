import WidgetPipeline.Proofs.Extraction.Rescan

/-!
# Extracting twice

What extraction leaves has no empty lines, so a second extraction changes nothing as long as it
finds no directive (`extract_code_again_iff`). It may find one, or fail: a line goes with everything
on it, and where that is the opening of a template literal, the text of the literal becomes code. In
a well laid out source nothing but white space goes with a directive, and once is enough
(`extractDirectives_again`).
-/

namespace WidgetPipeline

/-- The lines of a comment do not matter for what it holds. -/
theorem Comment.isDirective_renumber (renumber : Nat → Nat) (comment : Comment) :
    (comment.renumber renumber).isDirective = comment.isDirective := by
  simp [isDirective, Directive.ofComment?, Comment.renumber]

namespace Extraction

open Script

variable {source : String} {map : CommentMap}

theorem filterMap_ofComment?_eq_nil_iff {comments : List Comment} :
    comments.filterMap Directive.ofComment? = [] ↔
      ∀ comment ∈ comments, comment.isDirective = false := by
  simp [List.filterMap_eq_nil_iff, Comment.isDirective]

/-- Without directives all lines of the remaining code remain. -/
theorem ofComments_code {again : CommentMap}
    (h : ∀ comment ∈ again.values, comment.isDirective = false) :
    ofComments again (ofComments map source).code =
      { code := (ofComments map source).code, directives := [] } := by
  have hnil := filterMap_ofComment?_eq_nil_iff.2 h
  have hlines := toList_code map source
  have hne : ∀ line ∈ Text.selectLines
      (keeps (ofComments map source).directives source.toList) 1 (Text.lines source.toList),
      line ≠ [] := by
    intro line hmem
    rw [selectLines_keeps] at hmem
    simpa using (List.mem_filter.1 hmem).2
  have hkept := joinNonempty_lines_intercalate hne fun line hmem =>
    Text.not_mem_of_mem_lines (Text.mem_of_mem_selectLines hmem)
  rw [← hlines] at hkept
  rw [ofComments, hnil]
  simp only [List.foldl_nil, hkept, String.ofList_toList]

/-- Extracting again changes nothing if and only if what is left can be scanned and holds no
directive. -/
theorem extract_code_again_iff :
    extractDirectives scanComments (ofComments map source).code =
        .ok { code := (ofComments map source).code, directives := [] } ↔
      ∃ again, scanComments (ofComments map source).code = .ok again ∧
        ∀ comment ∈ again.values, comment.isDirective = false := by
  rw [extractDirectives_eq_ok_iff]
  constructor
  · rintro ⟨again, hscan, hagain⟩
    exact ⟨again, hscan, filterMap_ofComment?_eq_nil_iff.1 (congrArg Extraction.directives hagain)⟩
  · rintro ⟨again, hscan, hplain⟩
    exact ⟨again, hscan, ofComments_code hplain⟩

/-- Extracting again from what an extraction leaves changes nothing if and only if that can be
scanned and holds no directive, as is the case where the source is well laid out. -/
theorem extractDirectives_again {extraction : Extraction}
    (h : extractDirectives scanComments source = .ok extraction) :
    (extractDirectives scanComments extraction.code =
        .ok { code := extraction.code, directives := [] } ↔
      ∃ again, scanComments extraction.code = .ok again ∧
        ∀ comment ∈ again.values, comment.isDirective = false) ∧
    (∀ map, scanComments source = .ok map → WellLaidOut source.toList map.toList →
      extractDirectives scanComments extraction.code =
        .ok { code := extraction.code, directives := [] }) := by
  obtain ⟨map, hscan, rfl⟩ := extractDirectives_eq_ok_iff.1 h
  refine ⟨extract_code_again_iff, ?_⟩
  intro map' hscan' layout
  obtain rfl : map = map' := Except.ok.inj (hscan.symm.trans hscan')
  obtain ⟨again, hagain, hvalues⟩ := scanComments_ofComments hscan layout
  refine extract_code_again_iff.2 ⟨again, hagain, ?_⟩
  intro comment hmem
  rw [hvalues] at hmem
  obtain ⟨original, horiginal, rfl⟩ := List.mem_map.1 hmem
  rw [Comment.isDirective_renumber]
  simpa using (List.mem_filter.1 horiginal).2

theorem extractDirectives_again_mixedSource :
    ∃ extraction, extractDirectives scanComments mixedSource = .ok extraction ∧
      extractDirectives scanComments extraction.code =
        .ok { code := extraction.code, directives := [] } := by
  have hextraction :=
    extractDirectives_eq_ok_iff.2 ⟨mixedComments, scanComments_mixedSource, rfl⟩
  exact ⟨_, hextraction, (extractDirectives_again hextraction).2 mixedComments
    scanComments_mixedSource wellLaidOut_mixedSource⟩

/-! ## A source that loses the opening of a template literal -/

/-- A directive in front of a template literal whose text looks like a directive. -/
def exposedSource : String := "/* @a */ \x60\n// @b\n// \x60"

theorem extractDirectives_exposedSource :
    extractDirectives scanComments exposedSource =
        .ok { code := "// @b\n// \x60", directives := [⟨"a", none, 1, 1⟩] } ∧
      extractDirectives scanComments "// @b\n// \x60" =
        .ok { code := "// \x60", directives := [⟨"b", none, 1, 1⟩] } :=
  ⟨eq_ok_of_toOption (by decide +kernel), eq_ok_of_toOption (by decide +kernel)⟩

/-- Extraction is not idempotent. -/
theorem extractDirectives_not_idempotent :
    ¬ ∀ source extraction, extractDirectives scanComments source = .ok extraction →
      extractDirectives scanComments extraction.code =
        .ok { code := extraction.code, directives := [] } := by
  intro h
  have hagain := h exposedSource _ extractDirectives_exposedSource.1
  rw [extractDirectives_exposedSource.2] at hagain
  simp at hagain

end Extraction

end WidgetPipeline
