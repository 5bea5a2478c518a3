import Mathlib.Data.List.Infix
import WidgetPipeline.Proofs.Reference.Resolution
import WidgetPipeline.Proofs.Reference.Seams

/-!
# Resolving a text in two parts

Whether a reference stands somewhere depends on what follows only as far as its braces are open: a
reference is there if the brace that opens is closed, but not at once (`atFront_iff`). So where
nothing is left open at the end of a text, it keeps its references whatever is written behind it, no
reference lies across the seam (`Splits.pieces_append`), and the two texts are resolved one after the
other (`resolveReferences_append`).
-/

namespace WidgetPipeline

namespace Reference

variable {cs text behind rest : List Char} {part : Part} {parts : List Part} {last : List Char}

/-! ## Where references stand -/

theorem readInner?_ne_none_iff : readInner? cs ≠ none ↔ cs.head? ≠ some '}' ∧ '}' ∈ cs := by
  rw [ne_eq, readInner?_eq_none_iff, not_or, Decidable.not_not]

/-- A reference stands where a brace is opened behind an at sign and closed, but not at once. -/
theorem atFront_iff :
    AtFront cs ↔ ∃ inside, cs = '@' :: '{' :: inside ∧ inside.head? ≠ some '}' ∧ '}' ∈ inside := by
  constructor
  · rintro ⟨inner, rest, isInner, rfl⟩
    have hread : readInner? (inner ++ '}' :: rest) = some (inner, rest) :=
      readInner?_eq_some_iff.2 ⟨isInner, rfl⟩
    refine ⟨inner ++ '}' :: rest, by simp [expression], readInner?_ne_none_iff.1 ?_⟩
    simp [hread]
  · rintro ⟨inside, rfl, hread⟩
    obtain ⟨⟨inner, rest⟩, hsome⟩ :=
      Option.ne_none_iff_exists'.1 (readInner?_ne_none_iff.2 hread)
    obtain ⟨isInner, rfl⟩ := readInner?_eq_some_iff.1 hsome
    exact ⟨inner, rest, isInner, by simp [expression]⟩

/-- What follows a closing brace says nothing about references in front of it. -/
theorem AtFront.of_close (h : AtFront (text ++ '}' :: rest)) (behind : List Char) :
    AtFront (text ++ '}' :: behind) := by
  obtain ⟨inside, hcut, hopen, _⟩ := atFront_iff.1 h
  rcases text with _ | ⟨c, _ | ⟨d, text⟩⟩
  · simp at hcut
  · simp at hcut
  · obtain ⟨rfl, rfl, rfl⟩ : c = '@' ∧ d = '{' ∧ text ++ '}' :: rest = inside := by simpa using hcut
    refine atFront_iff.2 ⟨text ++ '}' :: behind, rfl, ?_, by simp⟩
    cases text with
    | nil => simp at hopen
    | cons e text => simpa using hopen

theorem pieces_cons {c : Char} (h : ¬ AtFront (c :: cs)) :
    pieces (c :: cs) = .plain c :: pieces cs := by
  by_cases hopen : ∃ inside, c = '@' ∧ cs = '{' :: inside
  · obtain ⟨inside, rfl, rfl⟩ := hopen
    have hread : readInner? inside = none :=
      Decidable.not_not.1 fun hread =>
        h (atFront_iff.2 ⟨inside, rfl, readInner?_ne_none_iff.1 hread⟩)
    exact pieces_at hread
  · exact pieces_plain fun inside hc hcs => hopen ⟨inside, hc, hcs⟩

/-- Characters at which no reference starts are pieces of their own. -/
theorem pieces_append_of_noneWithin (h : NoneWithin text.length (text ++ behind)) :
    pieces (text ++ behind) = text.map .plain ++ pieces behind := by
  induction text with
  | nil => rfl
  | cons c text ih =>
    have htail : NoneWithin text.length (text ++ behind) := by
      intro front rest hcut hlt
      exact h (c :: front) rest (by simp [hcut]) (by simpa using hlt)
    have hfront : ¬ AtFront (c :: (text ++ behind)) := h [] _ rfl (by simp)
    rw [List.cons_append, pieces_cons hfront, ih htail]
    rfl

/-! ## The seam -/

/-- A text that leaves nothing open: it does not end between an at sign and a brace, and a brace
behind an at sign is closed at once. -/
structure Complete (text : List Char) : Prop where
  noAt : text.getLast? ≠ some '@'
  closed : ∀ tail, tail <:+ text → ['@', '{'] <+: tail → ['@', '{', '}'] <+: tail

/-- No reference starts in a text that leaves nothing open. -/
theorem Complete.noneWithin (h : Complete text) (behind : List Char) :
    NoneWithin text.length (text ++ behind) := by
  intro front rest hcut hlt hfront
  obtain ⟨tail, rfl, rfl⟩ : ∃ tail, text = front ++ tail ∧ rest = tail ++ behind := by
    obtain ⟨tail, rfl, rfl⟩ | ⟨tail, rfl, rfl⟩ := List.append_eq_append_iff.1 hcut
    · simp only [List.length_append] at hlt
      omega
    · exact ⟨tail, rfl, rfl⟩
  obtain ⟨inside, hinside, hopen, _⟩ := atFront_iff.1 hfront
  rcases tail with _ | ⟨c, _ | ⟨d, tail⟩⟩
  · simp at hlt
  · obtain rfl : c = '@' := by simpa using (List.cons.inj hinside).1
    exact h.noAt (by simp)
  · obtain ⟨rfl, rfl, rfl⟩ : c = '@' ∧ d = '{' ∧ tail ++ behind = inside := by simpa using hinside
    obtain ⟨tail, hclose⟩ := h.closed _ (List.suffix_append _ _) (List.prefix_append ['@', '{'] tail)
    simp only [List.cons_append, List.nil_append, List.cons.injEq, true_and] at hclose
    exact hopen (by rw [← hclose]; rfl)

/-- A part keeps its reference whatever follows it. -/
theorem NoneWithin.part_append (h : NoneWithin part.before.length (part.text ++ rest))
    (behind : List Char) : NoneWithin part.before.length (part.text ++ behind) := by
  intro front tail hcut hlt hfront
  obtain ⟨middle, hbefore, rfl⟩ : ∃ middle, part.before = front ++ middle ∧
      tail = middle ++ ('@' :: '{' :: part.inner) ++ '}' :: behind := by
    have hcut' : part.before ++ (expression part.inner ++ behind) = front ++ tail := by
      simpa [Part.text] using hcut
    obtain ⟨middle, rfl, _⟩ | ⟨middle, hbefore, rfl⟩ := List.append_eq_append_iff.1 hcut'
    · simp only [List.length_append] at hlt
      omega
    · exact ⟨middle, hbefore, by simp [expression]⟩
  refine h front (middle ++ ('@' :: '{' :: part.inner) ++ '}' :: rest) ?_ hlt (hfront.of_close rest)
  simp [Part.text, hbefore, expression]

/-- A text behind one that leaves nothing open behind its last reference is cut as it is alone. -/
theorem Splits.pieces_append (h : Splits cs parts last) (complete : Complete last)
    (behind : List Char) : pieces (cs ++ behind) = pieces cs ++ pieces behind := by
  have hpieces : ∀ behind, pieces (cs ++ behind) = piecesOf parts last ++ pieces behind := by
    intro behind
    induction h with
    | last => exact pieces_append_of_noneWithin (complete.noneWithin behind)
    | @part cs rest last part parts cut inner leftmost _ ih =>
      have hnone : NoneWithin part.before.length
          (part.before ++ (expression part.inner ++ (rest ++ behind))) := by
        rw [cut] at leftmost
        simpa [Part.text] using leftmost.part_append (rest ++ behind)
      have hcut : cs ++ behind = part.before ++ (expression part.inner ++ (rest ++ behind)) := by
        simp [cut, Part.text]
      rw [hcut, pieces_append_of_noneWithin hnone, pieces_expression inner, ih complete]
      simp [piecesOf]
  have hself := hpieces []
  rw [List.append_nil, pieces_nil, List.append_nil] at hself
  rw [hpieces, hself]

/-! ## Resolution -/

/-- Where a text does not end with an at sign, and behind its last reference every brace behind an at
sign is closed at once, it is resolved like the text alone whatever is written behind it, and so is
that. -/
theorem resolveReferences_append {a : String} (splits : Splits a.toList parts last)
    (noAt : a.toList.getLast? ≠ some '@')
    (closed : ∀ tail, tail <:+ last → ['@', '{'] <+: tail → ['@', '{', '}'] <+: tail)
    (b : String) (tables : ReferenceTables) :
    resolveReferences tables (a ++ b) =
      { code := (resolveReferences tables a).code ++ (resolveReferences tables b).code
        logs := (resolveReferences tables a).logs ++ (resolveReferences tables b).logs } := by
  have noAtLast : last.getLast? ≠ some '@' := by
    intro hlast
    apply noAt
    rw [splits.eq_joined, List.getLast?_append, hlast]
    rfl
  have hpieces := splits.pieces_append ⟨noAtLast, closed⟩ b.toList
  simp only [resolveReferences, String.toList_append, hpieces, List.map_append, List.flatMap_append,
    String.ofList_append]

theorem resolveReferences_append_emptyBraces :
    Splits "x@\x7b\x7d@\x7balias/n\x7d\n@\x7b\x7d".toList [⟨"x@\x7b\x7d".toList, "alias/n".toList⟩]
        "\n@\x7b\x7d".toList ∧
      resolveReferences { aliases := ⟨[("n", "@")], by decide⟩ }
          ("x@\x7b\x7d@\x7balias/n\x7d\n@\x7b\x7d" ++ "\x7d@\x7benv\x7d@\x7b") =
        { code := "x@\x7b\x7d@\n@\x7b\x7d\x7d@\x7benv\x7d@\x7b"
          logs := [.warn "Unknown keyword: env"] } := by
  have splits : Splits "x@\x7b\x7d@\x7balias/n\x7d\n@\x7b\x7d".toList
      [⟨"x@\x7b\x7d".toList, "alias/n".toList⟩] "\n@\x7b\x7d".toList := by
    decide +kernel
  refine ⟨splits, ?_⟩
  rw [resolveReferences_append splits (by decide +kernel)]
  · decide +kernel
  · simpa only [List.mem_tails] using
      (by decide +kernel : ∀ tail ∈ "\n@\x7b\x7d".toList.tails,
        ['@', '{'] <+: tail → ['@', '{', '}'] <+: tail)

end Reference

end WidgetPipeline
