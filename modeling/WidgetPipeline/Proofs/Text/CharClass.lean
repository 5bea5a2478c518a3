import WidgetPipeline.Text.CharClass

/-!
# Character classes exclude one another

Two tables of ranges that lie apart have no character in common (`has_eq_false_of_apart`). White
space has no letters and no numbers in it (`isAlphanumeric_of_isBlank`) and no other character of a
word (`isWordChar_of_isBlank`).
-/

namespace WidgetPipeline.Text

namespace CodeRanges

theorem exists_of_covers {ranges : CodeRanges} {code : Nat} (h : ranges.covers code = true) :
    ∃ range ∈ ranges, range.1 ≤ code ∧ code ≤ range.2 := by
  induction ranges with
  | nil => simp [covers] at h
  | cons head tail ih =>
    unfold covers at h
    split at h
    · cases h
    · rename_i hfirst
      rcases Bool.or_eq_true_iff.1 h with hlast | htail
      · exact ⟨head, List.mem_cons_self, Nat.le_of_not_lt hfirst, of_decide_eq_true hlast⟩
      · obtain ⟨range, hmem, hrange⟩ := ih htail
        exact ⟨range, List.mem_cons_of_mem _ hmem, hrange⟩

/-- Every range of the one table lies below or above every range of the other. -/
def Apart (ranges others : CodeRanges) : Prop :=
  ∀ range ∈ ranges, ∀ other ∈ others, range.2 < other.1 ∨ other.2 < range.1

instance (ranges others : CodeRanges) : Decidable (Apart ranges others) :=
  inferInstanceAs (Decidable (∀ range ∈ ranges, ∀ other ∈ others, _))

theorem has_eq_false_of_apart {ranges others : CodeRanges} (h : Apart ranges others) {c : Char}
    (hc : ranges.has c = true) : others.has c = false := by
  rw [Bool.eq_false_iff]
  intro hother
  obtain ⟨range, hrange, hle, hge⟩ := exists_of_covers hc
  obtain ⟨other, hmem, hle', hge'⟩ := exists_of_covers hother
  have hapart := h range hrange other hmem
  omega

end CodeRanges

theorem ne_of_isBlank {c d : Char} (h : isBlank c = true) (hd : isBlank d = false) : c ≠ d := by
  rintro rfl
  simp [h] at hd

theorem blank_apart_alphabetic : blankRanges.Apart alphabeticRanges := by decide +kernel

theorem blank_apart_decimalDigit : blankRanges.Apart decimalDigitRanges := by decide +kernel

theorem isAlphanumeric_of_isBlank {c : Char} (h : isBlank c = true) : isAlphanumeric c = false := by
  have hother : blankRanges.Apart otherNumberRanges := by decide +kernel
  simp [isAlphanumeric, CodeRanges.has_eq_false_of_apart blank_apart_alphabetic h,
    CodeRanges.has_eq_false_of_apart blank_apart_decimalDigit h,
    CodeRanges.has_eq_false_of_apart hother h]

theorem isWordChar_of_isBlank {c : Char} (h : isBlank c = true) : isWordChar c = false := by
  have hmark : blankRanges.Apart markRanges := by decide +kernel
  have hconnector : blankRanges.Apart connectorRanges := by decide +kernel
  have hjoiner : blankRanges.Apart joinControlRanges := by decide +kernel
  simp [isWordChar, CodeRanges.has_eq_false_of_apart blank_apart_alphabetic h,
    CodeRanges.has_eq_false_of_apart blank_apart_decimalDigit h,
    CodeRanges.has_eq_false_of_apart hmark h, CodeRanges.has_eq_false_of_apart hconnector h,
    CodeRanges.has_eq_false_of_apart hjoiner h]

end WidgetPipeline.Text
