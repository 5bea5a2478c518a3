import WidgetPipeline.Script.State
import WidgetPipeline.Proofs.Text.CharClass
import WidgetPipeline.Proofs.Text.Lines

/-!
# How comments are read

The characters that a comment is read from: a line comment runs to the end of its line
(`of_read?_lineComment`), a block comment to the first closing delimiter
(`splitAtBlockEnd_eq_some_iff`, `of_read?_blockComment`). Reading fails only at a block comment
without one (`of_read?_eq_none`).
-/

namespace WidgetPipeline.Script

/-- The text ends here or goes on with a line break. -/
def AtLineEnd (cs : List Char) : Prop := cs = [] ∨ ∃ rest, cs = '\n' :: rest

instance (cs : List Char) : Decidable (AtLineEnd cs) :=
  match cs with
  | [] => .isTrue (.inl rfl)
  | c :: rest =>
    if h : c = '\n' then .isTrue (.inr ⟨rest, by rw [h]⟩)
    else .isFalse (by rintro (hnil | ⟨rest', hcons⟩) <;> simp_all)

theorem atLineEnd_dropWhile (cs : List Char) : AtLineEnd (cs.dropWhile (· ≠ '\n')) := by
  induction cs with
  | nil => exact .inl rfl
  | cons c cs ih =>
    by_cases h : c = '\n'
    · exact .inr ⟨cs, by simp [h]⟩
    · simpa [h] using ih

theorem not_mem_takeWhile (cs : List Char) : '\n' ∉ cs.takeWhile (· ≠ '\n') := by
  induction cs with
  | nil => simp
  | cons c cs ih =>
    by_cases h : c = '\n'
    · simp [h]
    · simpa [h, Ne.symm h] using ih

/-- What stands in front of the end of its line is determined by the text. -/
theorem eq_of_atLineEnd {body body' after after' : List Char} (single : '\n' ∉ body)
    (single' : '\n' ∉ body') (ends : AtLineEnd after) (ends' : AtLineEnd after')
    (h : body ++ after = body' ++ after') : body = body' := by
  induction body generalizing body' with
  | nil =>
    cases body' with
    | nil => rfl
    | cons d ds =>
      rcases ends with rfl | ⟨rest, rfl⟩
      · simp at h
      · simp only [List.nil_append, List.cons_append, List.cons.injEq] at h
        exact absurd (List.mem_cons.2 (.inl h.1)) single'
  | cons c cs ih =>
    cases body' with
    | nil =>
      rcases ends' with rfl | ⟨rest, rfl⟩
      · simp at h
      · simp only [List.nil_append, List.cons_append, List.cons.injEq] at h
        exact absurd (List.mem_cons.2 (.inl h.1.symm)) single
    | cons d ds =>
      simp only [List.cons_append, List.cons.injEq] at h
      obtain ⟨rfl, h⟩ := h
      have htail : cs = ds :=
        ih (fun hmem => single (by simp [hmem])) (fun hmem => single' (by simp [hmem])) h
      rw [htail]

theorem isIdentPart_of_isBlank {c : Char} (h : Text.isBlank c = true) : isIdentPart c = false := by
  have hline : c ≠ '_' := Text.ne_of_isBlank h (by decide)
  have hdollar : c ≠ '$' := Text.ne_of_isBlank h (by decide)
  simp [isIdentPart, Text.isAlphanumeric_of_isBlank h, hline, hdollar]

/-! ## The end of a block comment -/

theorem splitAtBlockEnd_eq_none_iff {cs : List Char} :
    splitAtBlockEnd cs = none ↔ ∀ inner rest, cs ≠ inner ++ '*' :: '/' :: rest := by
  fun_induction splitAtBlockEnd cs with
  | case1 => simp
  | case2 rest =>
    simp only [reduceCtorEq, false_iff]
    exact fun h => h [] rest rfl
  | case3 c cs hopen ih =>
    rw [Option.map_eq_none_iff, ih]
    constructor
    · intro h inner rest hcut
      cases inner with
      | nil =>
        simp only [List.nil_append, List.cons.injEq] at hcut
        exact hopen rest hcut.1 hcut.2
      | cons d ds =>
        simp only [List.cons_append, List.cons.injEq] at hcut
        exact h ds rest hcut.2
    · intro h inner rest hcut
      exact h (c :: inner) rest (by rw [hcut, List.cons_append])

/-- A block comment ends at the first closing delimiter. -/
theorem splitAtBlockEnd_eq_some_iff {cs inner rest : List Char} :
    splitAtBlockEnd cs = some (inner, rest) ↔
      cs = inner ++ '*' :: '/' :: rest ∧
        ∀ earlier later, cs = earlier ++ '*' :: '/' :: later → inner.length ≤ earlier.length := by
  fun_induction splitAtBlockEnd cs generalizing inner with
  | case1 => simp
  | case2 rest' =>
    constructor
    · intro h
      simp only [Option.some.injEq, Prod.mk.injEq] at h
      obtain ⟨rfl, rfl⟩ := h
      exact ⟨rfl, fun _ _ _ => Nat.zero_le _⟩
    · rintro ⟨hcut, hfirst⟩
      have hinner : inner = [] := List.length_eq_zero_iff.1 (Nat.le_zero.1 (hfirst [] rest' rfl))
      simpa [hinner] using hcut
  | case3 c cs hopen ih =>
    have hinner : ∀ earlier later, c :: cs = earlier ++ '*' :: '/' :: later →
        ∃ tail, earlier = c :: tail ∧ cs = tail ++ '*' :: '/' :: later := by
      intro earlier later hcut
      cases earlier with
      | nil =>
        simp only [List.nil_append, List.cons.injEq] at hcut
        exact absurd hcut.2 (hopen later hcut.1)
      | cons d ds =>
        simp only [List.cons_append, List.cons.injEq] at hcut
        exact ⟨ds, by rw [hcut.1], hcut.2⟩
    constructor
    · intro h
      obtain ⟨⟨inner', rest'⟩, hsplit, hpair⟩ := Option.map_eq_some_iff.1 h
      simp only [Prod.mk.injEq] at hpair
      obtain ⟨rfl, rfl⟩ := hpair
      obtain ⟨hcut, hfirst⟩ := ih.1 hsplit
      refine ⟨by rw [hcut, List.cons_append], ?_⟩
      intro earlier later hcut'
      obtain ⟨tail, rfl, htail⟩ := hinner earlier later hcut'
      exact Nat.succ_le_succ (hfirst tail later htail)
    · rintro ⟨hcut, hfirst⟩
      obtain ⟨tail, rfl, htail⟩ := hinner inner rest hcut
      have hsplit : splitAtBlockEnd cs = some (tail, rest) := ih.2 ⟨htail, fun earlier later h => by
        have hle := hfirst (c :: earlier) later (by rw [h, List.cons_append])
        simpa using hle⟩
      simp [hsplit]

/-! ## The splitters, one character at a time -/

theorem splitQuoted_escaped (mark c : Char) (cs : List Char) :
    splitQuoted mark ('\\' :: c :: cs) =
      ('\\' :: c :: (splitQuoted mark cs).1, (splitQuoted mark cs).2) := rfl

theorem splitQuoted_plain (mark : Char) {c : Char} (hescape : c ≠ '\\') (hbreak : c ≠ '\n')
    (cs : List Char) :
    splitQuoted mark (c :: cs) =
      if c = mark then ([], true, cs)
      else (c :: (splitQuoted mark cs).1, (splitQuoted mark cs).2) := by
  rw [splitQuoted.eq_5]
  all_goals grind

theorem splitRegexBody_escaped (inClass : Bool) {c : Char} (hbreak : c ≠ '\n') (cs : List Char) :
    splitRegexBody inClass ('\\' :: c :: cs) =
      (splitRegexBody inClass cs).map fun (body, rest) => ('\\' :: c :: body, rest) := by
  rw [splitRegexBody.eq_5]
  exact hbreak

theorem splitRegexBody_plain (inClass : Bool) {c : Char} (hescape : c ≠ '\\') (hbreak : c ≠ '\n')
    (hopen : c ≠ '[') (hclose : c ≠ ']') (cs : List Char) :
    splitRegexBody inClass (c :: cs) =
      if c = '/' ∧ !inClass then some ([], cs)
      else (splitRegexBody inClass cs).map fun (body, rest) => (c :: body, rest) := by
  rw [splitRegexBody.eq_8]
  all_goals grind

namespace Lexeme

variable {state : State} {c : Char} {cs rest : List Char}

theorem readCode?_blank {operandExpected : Bool} (h : Text.isBlank c = true) :
    readCode? operandExpected c cs = some (.blank c, cs) := by
  have hne : ∀ d, Text.isBlank d = false → c ≠ d := fun d => Text.ne_of_isBlank h
  simp [readCode?, isIdentPart_of_isBlank h, h, hne '/' (by decide), hne '"' (by decide),
    hne '\'' (by decide), hne '\x60' (by decide), hne '{' (by decide), hne '}' (by decide)]

theorem readTemplate_blank (h : Text.isBlank c = true) :
    readTemplate c cs = (.templateText c, cs) := by
  have hquote : c ≠ '\x60' := Text.ne_of_isBlank h (by decide)
  have hdollar : c ≠ '$' := Text.ne_of_isBlank h (by decide)
  have hescape : c ≠ '\\' := Text.ne_of_isBlank h (by decide)
  rw [readTemplate.eq_5]
  · exact hquote
  · exact fun _ hc _ => hdollar hc
  · exact fun _ _ hc _ => hescape hc
  · exact fun hc _ => hescape hc

theorem read?_blockComment (hcode : state.inTemplate = false) (ds : List Char) :
    read? state '/' ('*' :: ds) =
      (splitAtBlockEnd ds).map fun (inner, rest) => (.blockComment inner, rest) := by
  simp [read?, hcode, readCode?, readSlash?]

theorem of_read?_lineComment {body : List Char}
    (h : read? state c cs = some (.lineComment body, rest)) : '\n' ∉ body ∧ AtLineEnd rest := by
  unfold read? readCode? readSlash? readTemplate at h
  split at h
  · split at h <;> simp at h
  · repeat' split at h
    all_goals simp only [Option.some.injEq, Prod.mk.injEq, reduceCtorEq, false_and,
      Option.map_eq_some_iff, and_false, exists_false, lineComment.injEq] at h
    obtain ⟨rfl, rfl⟩ := h
    exact ⟨not_mem_takeWhile _, atLineEnd_dropWhile _⟩

theorem of_read?_blockComment {inner : List Char}
    (h : read? state c cs = some (.blockComment inner, rest)) :
    ∃ ds, cs = '*' :: ds ∧ splitAtBlockEnd ds = some (inner, rest) := by
  unfold read? readCode? readSlash? readTemplate at h
  split at h
  · split at h <;> simp at h
  · repeat' split at h
    all_goals simp only [Option.some.injEq, Prod.mk.injEq, reduceCtorEq, false_and,
      Option.map_eq_some_iff, blockComment.injEq, Prod.exists] at h
    obtain ⟨inner', rest', hsplit, rfl, rfl⟩ := h
    exact ⟨_, rfl, hsplit⟩

/-- Nothing is read only where a block comment opens that has no end. -/
theorem of_read?_eq_none (h : read? state c cs = none) :
    state.inTemplate = false ∧ c = '/' ∧ ∃ ds, cs = '*' :: ds ∧ splitAtBlockEnd ds = none := by
  unfold read? at h
  split at h
  · simp at h
  · rename_i houtside
    refine ⟨by simpa using houtside, ?_⟩
    unfold readCode? readSlash? at h
    split at h
    · rename_i hc
      refine ⟨hc, ?_⟩
      split at h
      · simp at h
      · exact ⟨_, rfl, by simpa using h⟩
      · split at h <;> simp at h
    · repeat' split at h
      all_goals simp at h

end Lexeme

end WidgetPipeline.Script
