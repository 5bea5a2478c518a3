import WidgetPipeline.Proofs.Extraction.Simulation

/-!
# Scanning what extraction leaves

In a well laid out source a scan of the code that remains after extraction finds the comments of the
source that are no directives, with the same contents and on the lines that extraction has moved
them to (`scanComments_code`).
-/

namespace WidgetPipeline.Extraction

open Script

/-- The remaining code is scanned like the characters on kept lines. -/
theorem scanFrom_code (state : State) (map : CommentMap) (source : String) :
    scanFrom state (ofComments map source).code.toList =
      scanFrom state (Text.onLines
        (keeps (ofComments map source).directives source.toList) 1 source.toList) := by
  rw [toList_code]
  rcases Text.onLines_eq (keeps (ofComments map source).directives source.toList) 1
    source.toList with heq | ⟨_, heq⟩
  · rw [heq]
  · rw [heq, scanFrom_append_break]

/-- The comments that are found in the code left by the directives of a well laid out source. -/
theorem scanComments_ofComments {source : String} {map : CommentMap}
    (hscan : scanComments source = .ok map) (layout : WellLaidOut source.toList map.toList) :
    ∃ rescan, scanComments (ofComments map source).code = .ok rescan ∧
      rescan.values = (map.values.filter fun comment => !comment.isDirective).map
        (Comment.renumber
          (keptUpTo (keeps (ofComments map source).directives source.toList))) := by
  obtain ⟨found, hfound, hsame⟩ :=
    scanFrom_onLines layout.separates (scanComments_eq_ok_iff.1 hscan)
  have hcode : scanFrom {} (ofComments map source).code.toList = .ok found := by
    rw [scanFrom_code]
    exact hfound
  refine ⟨⟨found, (scanFrom_inOrder hcode).ascending⟩, scanComments_eq_ok_iff.2 hcode, ?_⟩
  have hvalues : OrderedMap.values ⟨found, (scanFrom_inOrder hcode).ascending⟩ =
      found.map (·.2) := rfl
  rw [hvalues, hsame, OrderedMap.values, List.filter_map, List.map_map]
  rfl

/-- Where directives stand on lines of their own, scanning commutes with extraction: the scan of
what extraction leaves finds just the other comments, in order and with the same contents, and each
of their lines has the number of kept lines down to it. -/
theorem scanComments_code {source : String} {map : CommentMap}
    (hscan : scanComments source = .ok map) (layout : WellLaidOut source.toList map.toList) :
    ∃ extraction rescan, extractDirectives scanComments source = .ok extraction ∧
      scanComments extraction.code = .ok rescan ∧
      rescan.values = (map.values.filter fun comment => !comment.isDirective).map
        (Comment.renumber (keptUpTo (keeps extraction.directives source.toList))) := by
  obtain ⟨rescan, hrescan, hvalues⟩ := scanComments_ofComments hscan layout
  exact ⟨ofComments map source, rescan, extractDirectives_eq_ok_iff.2 ⟨map, hscan, rfl⟩, hrescan,
    hvalues⟩

/-! ## A well laid out source -/

/-- A template literal and a comment in it that both run over an empty line, and two directives on
lines of their own, one of which runs over an empty line too. -/
def mixedSource : String :=
  "\x60a\n\n$\x7b1 /* b\n\nc */\x7d\x60\n /* @d\n\n@e */ // @f\nx // g"

/-- The comments of the source. -/
def mixedComments : CommentMap :=
  ⟨[(8, ⟨"b\nc", 3, 5⟩), (22, ⟨"@d\n@e", 6, 8⟩), (35, ⟨"@f", 8, 8⟩), (43, ⟨"g", 9, 9⟩)], by decide⟩

/-- To check every place of a text, the places are numbered. -/
theorem forall_cut {source : List Char} {P : List Char → Char → Prop}
    (h : ∀ index : Fin source.length, P (source.take index) source[index]) :
    ∀ before c after, source = before ++ c :: after → P before c := by
  rintro before c after rfl
  have hplace := h ⟨before.length, by simp⟩
  simpa using hplace

theorem wellLaidOut_mixedSource :
    WellLaidOut mixedSource.toList mixedComments.toList where
  unescaped := by
    intro before after hcut
    have hmem : '\\' ∈ mixedSource.toList := by simp [hcut]
    exact absurd hmem (by decide)
  alone := by
    have hclose : splitAtBlockEnd (" @d\n\n@e ".toList ++ '*' :: '/' :: " // @f\nx // g".toList) =
        some (" @d\n\n@e ".toList, " // @f\nx // g".toList) := by decide
    have block : Spans mixedSource.toList 22 ⟨"@d\n@e", 6, 8⟩ 34 :=
      .block "\x60a\n\n$\x7b1 /* b\n\nc */\x7d\x60\n ".toList " @d\n\n@e ".toList
        " // @f\nx // g".toList (by decide) (splitAtBlockEnd_eq_some_iff.1 hclose).2 (by decide)
        (by decide) (by decide) (by decide) (by decide)
    have line : Spans mixedSource.toList 35 ⟨"@f", 8, 8⟩ 40 :=
      .line "\x60a\n\n$\x7b1 /* b\n\nc */\x7d\x60\n /* @d\n\n@e */ ".toList " @f".toList
        "\nx // g".toList (by decide) (by decide) (by decide) (by decide) (by decide) (by decide)
        (by decide) (by decide)
    have hplaces : ∀ index : Fin mixedSource.toList.length,
        6 ≤ 1 + Text.lineBreaks (mixedSource.toList.take index) →
        1 + Text.lineBreaks (mixedSource.toList.take index) ≤ 8 →
        Text.isBlank mixedSource.toList[index] = true ∨
          22 ≤ Text.byteLength (mixedSource.toList.take index) ∧
            Text.byteLength (mixedSource.toList.take index) < 34 ∨
          35 ≤ Text.byteLength (mixedSource.toList.take index) ∧
            Text.byteLength (mixedSource.toList.take index) < 40 := by
      decide +kernel
    refine forall_cut fun index hline => ?_
    obtain ⟨entry, hmem, hdirective, hfirst, hlast⟩ := hline
    have hdirectives : ∀ entry ∈ mixedComments.toList, entry.2.isDirective = true →
        6 ≤ entry.2.firstLine ∧ entry.2.lastLine ≤ 8 := by
      decide +kernel
    have hrows := hdirectives entry hmem hdirective
    rcases hplaces index (by omega) (by omega) with hblank | ⟨hlow, hhigh⟩ | ⟨hlow, hhigh⟩
    · exact .inl hblank
    · exact .inr ⟨(22, ⟨"@d\n@e", 6, 8⟩), by decide, by decide +kernel, 34, block, hlow, hhigh⟩
    · exact .inr ⟨(35, ⟨"@f", 8, 8⟩), by decide, by decide +kernel, 40, line, hlow, hhigh⟩

theorem scanComments_mixedSource : scanComments mixedSource = .ok mixedComments :=
  eq_ok_of_toOption (by decide +kernel)

theorem scanComments_code_mixedSource :
    ∃ extraction rescan, extractDirectives scanComments mixedSource = .ok extraction ∧
      scanComments extraction.code = .ok rescan ∧
      rescan.values = [⟨"b\nc", 2, 3⟩, ⟨"g", 4, 4⟩] := by
  obtain ⟨extraction, rescan, hextraction, hrescan, hvalues⟩ :=
    scanComments_code scanComments_mixedSource wellLaidOut_mixedSource
  refine ⟨extraction, rescan, hextraction, hrescan, ?_⟩
  obtain ⟨map, hmap, rfl⟩ := extractDirectives_eq_ok_iff.1 hextraction
  obtain rfl : mixedComments = map := Except.ok.inj (scanComments_mixedSource.symm.trans hmap)
  rw [hvalues]
  decide +kernel

end WidgetPipeline.Extraction
