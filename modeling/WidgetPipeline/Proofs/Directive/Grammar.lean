import WidgetPipeline.Directive.Basic
import WidgetPipeline.Proofs.Text.Runs

/-!
# Which comments are directives

A comment is a directive if behind white space it begins with an at sign and a word; all of the word
is the name (`Directive.parse?_eq_some_iff`). So a comment asks to skip if its word is `skip`, and
not if `skip` only begins it (`Comment.asksToSkip_iff`).
-/

namespace WidgetPipeline

theorem Directive.parse?_eq_some_iff {content name : List Char} {value : Option (List Char)} :
    parse? content = some (name, value) ↔
      name ≠ [] ∧ (∀ c ∈ name, Text.isWordChar c = true) ∧
        ∃ rest, Text.trimStart content = '@' :: (name ++ rest) ∧
          (∀ c ∈ rest.head?, Text.isWordChar c = false) ∧ value = value? rest := by
  unfold parse?
  split
  · rename_i cs hcs
    constructor
    · intro h
      obtain ⟨hne, hname, hvalue⟩ : cs.takeWhile Text.isWordChar ≠ [] ∧
          cs.takeWhile Text.isWordChar = name ∧ value? (cs.dropWhile Text.isWordChar) = value := by
        simpa using h
      obtain ⟨hcut, hword, hahead⟩ := Text.takeWhile_dropWhile_iff.1 ⟨hname, rfl⟩
      exact ⟨hname ▸ hne, hword, _, by rw [hcs, ← hcut], hahead, hvalue.symm⟩
    · rintro ⟨hne, hword, rest, htrim, hahead, rfl⟩
      obtain rfl : cs = name ++ rest := by simpa [hcs] using htrim
      obtain ⟨htake, hdrop⟩ := Text.takeWhile_dropWhile_iff.2 ⟨rfl, hword, hahead⟩
      simp [htake, hdrop, hne]
  · rename_i hno
    constructor
    · simp
    · rintro ⟨_, _, rest, htrim, _⟩
      exact absurd htrim (hno _)

/-- A comment is a directive if behind white space it begins with an at sign and a character of a
word. -/
theorem Directive.isSome_ofComment?_iff {comment : Comment} :
    (ofComment? comment).isSome = true ↔
      ∃ c rest, Text.trimStart comment.content.toList = '@' :: c :: rest ∧
        Text.isWordChar c = true := by
  rw [ofComment?, Option.isSome_map]
  constructor
  · intro h
    obtain ⟨⟨name, value⟩, hparse⟩ := Option.isSome_iff_exists.1 h
    obtain ⟨hne, hword, rest, htrim, -, -⟩ := parse?_eq_some_iff.1 hparse
    obtain ⟨c, others, rfl⟩ := List.exists_cons_of_ne_nil hne
    exact ⟨c, others ++ rest, htrim, hword c List.mem_cons_self⟩
  · rintro ⟨c, rest, htrim, hc⟩
    simp [parse?, htrim, hc]

/-- Behind white space the comment begins with `@skip`, and no character of a word follows. -/
def Comment.AsksToSkip (comment : Comment) : Prop :=
  ∃ rest, Text.trimStart comment.content.toList = "@skip".toList ++ rest ∧
    ∀ c ∈ rest.head?, Text.isWordChar c = false

theorem Comment.asksToSkip_iff {comment : Comment} :
    comment.AsksToSkip ↔
      ∃ directive, Directive.ofComment? comment = some directive ∧ directive.name = "skip" := by
  have hskip : ∀ c ∈ "skip".toList, Text.isWordChar c = true :=
    List.all_eq_true.1 (by decide)
  constructor
  · rintro ⟨rest, htrim, hahead⟩
    have hparse : Directive.parse? comment.content.toList =
        some ("skip".toList, Directive.value? rest) :=
      Directive.parse?_eq_some_iff.2 ⟨by decide, hskip, rest, htrim, hahead, rfl⟩
    rw [Directive.ofComment?, hparse]
    exact ⟨_, rfl, String.ofList_toList⟩
  · rintro ⟨directive, hdirective, hname⟩
    obtain ⟨⟨name, value⟩, hparse, rfl⟩ := Option.map_eq_some_iff.1 hdirective
    obtain ⟨-, -, rest, htrim, hahead, -⟩ := Directive.parse?_eq_some_iff.1 hparse
    have hlist : name = "skip".toList := by rw [← hname, String.toList_ofList]
    exact ⟨rest, by rw [htrim, hlist]; rfl, hahead⟩

instance (comment : Comment) : Decidable comment.AsksToSkip :=
  decidable_of_iff ((Directive.ofComment? comment).any fun directive => directive.name = "skip")
    (by simp [Comment.asksToSkip_iff, Option.any_eq_true])

end WidgetPipeline
