import WidgetPipeline.Export
import WidgetPipeline.Proofs.Text.CharClass
import WidgetPipeline.Proofs.Text.Runs

/-!
# Phrases that export a default

A phrase is spelled out here without the functions that read it (`IsPhrase`). The reader takes the
phrase at the front of a text together with all white space behind it (`dropPhrase?_eq_some_iff`),
and finds one wherever one starts (`isSome_dropPhrase?_iff`). No phrase starts within another
(`IsPhrase.not_startsPhrase`), and a phrase does not reach over a character that none has in it, nor
into a text without white space (`StartsPhrase.of_append_cons`, `StartsPhrase.of_append_word`).
-/

namespace WidgetPipeline.Export

/-- White space of at least one character. -/
structure IsGap (gap : List Char) : Prop where
  ne_nil : gap ≠ []
  blank : ∀ c ∈ gap, Text.isBlank c = true

/-- The words of a default export with white space behind each. -/
inductive IsPhrase : List Char → Prop
  | words {between behind : List Char} (gap : IsGap between) (last : IsGap behind) :
      IsPhrase ("export".toList ++ (between ++ ("default".toList ++ behind)))

/-- A phrase stands at the front of the text. -/
def StartsPhrase (cs : List Char) : Prop := ∃ phrase rest, IsPhrase phrase ∧ cs = phrase ++ rest

/-- No phrase has the character in it: it is neither a letter of the two words nor white space. -/
structure Foreign (c : Char) : Prop where
  notBlank : Text.isBlank c = false
  notLetter : c ∉ "export".toList ++ "default".toList

/-- The text does not begin with white space. -/
def NoBlankAhead (cs : List Char) : Prop := ∀ c ∈ cs.head?, Text.isBlank c = false

variable {cs text rest phrase phrase' rest' tail word expected : List Char} {c : Char}

/-! ## What a phrase is made of -/

theorem IsGap.not_mem {gap : List Char} (h : IsGap gap) (hc : Text.isBlank c = false) :
    c ∉ gap := by
  intro hmem
  simp [h.blank c hmem] at hc

theorem IsPhrase.exists_eq (h : IsPhrase phrase) :
    ∃ tail, phrase = 'e' :: 'x' :: tail ∧ 'x' ∉ tail := by
  obtain @⟨between, behind, gap, last⟩ := h
  refine ⟨"port".toList ++ (between ++ ("default".toList ++ behind)), rfl, ?_⟩
  have hgap : 'x' ∉ between := gap.not_mem (by decide)
  have hlast : 'x' ∉ behind := last.not_mem (by decide)
  simp [hgap, hlast]

theorem IsPhrase.ne_nil (h : IsPhrase phrase) : phrase ≠ [] := by
  obtain ⟨tail, rfl, -⟩ := h.exists_eq
  exact List.cons_ne_nil 'e' _

/-- There is white space in every end of a phrase. -/
theorem IsPhrase.exists_blank (h : IsPhrase phrase) (hsuffix : tail <:+ phrase)
    (htail : tail ≠ []) : ∃ c ∈ tail, Text.isBlank c = true := by
  obtain @⟨between, behind, gap, last⟩ := h
  obtain ⟨front, hphrase⟩ := hsuffix
  obtain ⟨tail, c, rfl⟩ := (List.eq_nil_or_concat tail).resolve_left htail
  obtain ⟨behind, d, rfl⟩ := (List.eq_nil_or_concat behind).resolve_left last.ne_nil
  simp only [List.concat_eq_append, ← List.append_assoc] at hphrase
  obtain ⟨-, hlast⟩ := List.append_inj' hphrase rfl
  obtain rfl : c = d := by simpa using hlast
  exact ⟨c, by simp, last.blank c (by simp)⟩

theorem IsPhrase.not_mem (h : IsPhrase phrase) (hc : Foreign c) : c ∉ phrase := by
  obtain @⟨between, behind, gap, last⟩ := h
  obtain ⟨hblank, hletter⟩ := hc
  simp only [List.mem_append, not_or] at hletter ⊢
  exact ⟨hletter.1, gap.not_mem hblank, hletter.2, last.not_mem hblank⟩

theorem StartsPhrase.exists_eq (h : StartsPhrase cs) : ∃ tail, cs = 'e' :: 'x' :: tail := by
  obtain ⟨phrase, rest, isPhrase, rfl⟩ := h
  obtain ⟨tail, rfl, -⟩ := isPhrase.exists_eq
  exact ⟨tail ++ rest, rfl⟩

theorem not_startsPhrase_nil : ¬ StartsPhrase [] := by
  intro h
  obtain ⟨tail, htail⟩ := h.exists_eq
  simp at htail

theorem StartsPhrase.append (h : StartsPhrase cs) (rest : List Char) :
    StartsPhrase (cs ++ rest) := by
  obtain ⟨phrase, more, isPhrase, rfl⟩ := h
  exact ⟨phrase, more ++ rest, isPhrase, List.append_assoc ..⟩

theorem StartsPhrase.noBlankAhead (h : StartsPhrase cs) : NoBlankAhead cs := by
  obtain ⟨tail, rfl⟩ := h.exists_eq
  simp only [NoBlankAhead, List.head?_cons, Option.mem_some_iff, forall_eq']
  decide

/-! ## Reading a phrase -/

theorem dropExpected_eq_some_iff :
    dropExpected expected cs = some rest ↔ cs = expected ++ rest := by
  fun_induction dropExpected expected cs with
  | case1 cs => simp
  | case2 e expected => simp
  | case3 e expected cs ih => simp [ih]
  | case4 e expected c cs hne => simp [Ne.symm hne]

theorem dropBlanks_eq (cs : List Char) :
    dropBlanks cs =
      if cs.takeWhile Text.isBlank = [] then none else some (cs.dropWhile Text.isBlank) := by
  cases cs with
  | nil => rfl
  | cons c cs => by_cases h : Text.isBlank c = true <;> simp [dropBlanks, Text.trimStart, h]

theorem dropBlanks_eq_some_iff :
    dropBlanks cs = some rest ↔ ∃ gap, IsGap gap ∧ cs = gap ++ rest ∧ NoBlankAhead rest := by
  constructor
  · intro h
    rw [dropBlanks_eq] at h
    split at h
    · contradiction
    · rename_i hne
      obtain rfl := Option.some.inj h
      obtain ⟨hcut, hblank, ahead⟩ := Text.takeWhile_dropWhile_iff.1 ⟨rfl, rfl⟩
      exact ⟨_, ⟨hne, hblank⟩, hcut, ahead⟩
  · rintro ⟨gap, isGap, hcut, ahead⟩
    obtain ⟨htake, hdrop⟩ := Text.takeWhile_dropWhile_iff.2 ⟨hcut, isGap.blank, ahead⟩
    rw [dropBlanks_eq, htake, hdrop, if_neg isGap.ne_nil]

/-- The phrase at the front of a text is read with all white space behind it. -/
theorem dropPhrase?_eq_some_iff :
    dropPhrase? cs = some rest ↔
      ∃ phrase, IsPhrase phrase ∧ cs = phrase ++ rest ∧ NoBlankAhead rest := by
  simp only [dropPhrase?, Option.bind_eq_bind, Option.bind_eq_some_iff, dropExpected_eq_some_iff,
    dropBlanks_eq_some_iff]
  constructor
  · rintro ⟨_, rfl, _, ⟨between, gap, rfl, -⟩, _, rfl, behind, last, rfl, ahead⟩
    exact ⟨_, .words gap last, by simp only [List.append_assoc], ahead⟩
  · rintro ⟨_, @⟨between, behind, gap, last⟩, rfl, ahead⟩
    have hword : NoBlankAhead ("default".toList ++ (behind ++ rest)) := by
      simp [NoBlankAhead]
      decide
    exact ⟨between ++ ("default".toList ++ (behind ++ rest)), by simp only [List.append_assoc],
      _, ⟨between, gap, rfl, hword⟩, _, rfl, behind, last, rfl, ahead⟩

/-- What is behind a phrase may begin with white space, which is read with it. -/
theorem isSome_dropPhrase?_iff : (dropPhrase? cs).isSome ↔ StartsPhrase cs := by
  rw [Option.isSome_iff_exists]
  constructor
  · rintro ⟨rest, h⟩
    obtain ⟨phrase, isPhrase, hcut, -⟩ := dropPhrase?_eq_some_iff.1 h
    exact ⟨phrase, rest, isPhrase, hcut⟩
  · rintro ⟨_, rest, @⟨between, behind, gap, last⟩, rfl⟩
    obtain ⟨-, hblank, ahead⟩ := Text.takeWhile_dropWhile_iff.1
      ⟨Eq.refl (rest.takeWhile Text.isBlank), Eq.refl (rest.dropWhile Text.isBlank)⟩
    have more : IsGap (behind ++ rest.takeWhile Text.isBlank) := by
      refine ⟨by simp [last.ne_nil], fun c hmem => ?_⟩
      rcases List.mem_append.1 hmem with hmem | hmem
      · exact last.blank c hmem
      · exact hblank c hmem
    refine ⟨rest.dropWhile Text.isBlank, dropPhrase?_eq_some_iff.2 ⟨_, .words gap more, ?_, ahead⟩⟩
    simp only [List.append_assoc, List.takeWhile_append_dropWhile]

theorem dropPhrase?_eq_none_iff : dropPhrase? cs = none ↔ ¬ StartsPhrase cs := by
  rw [← isSome_dropPhrase?_iff, Bool.not_eq_true, Option.isSome_eq_false_iff,
    Option.isNone_iff_eq_none]

theorem dropPhrase?_phrase (h : IsPhrase phrase) (ahead : NoBlankAhead rest) :
    dropPhrase? (phrase ++ rest) = some rest :=
  dropPhrase?_eq_some_iff.2 ⟨phrase, h, rfl, ahead⟩

/-- The phrase at the front of a text ends where the white space behind it ends. -/
theorem IsPhrase.append_inj (h : IsPhrase phrase) (ahead : NoBlankAhead rest)
    (h' : IsPhrase phrase') (ahead' : NoBlankAhead rest')
    (heq : phrase ++ rest = phrase' ++ rest') : phrase = phrase' ∧ rest = rest' := by
  have hread := dropPhrase?_phrase h ahead
  rw [heq, dropPhrase?_phrase h' ahead'] at hread
  obtain rfl := Option.some.inj hread
  exact ⟨List.append_cancel_right heq, rfl⟩

/-! ## Where a phrase ends -/

/-- No phrase starts within another. -/
theorem IsPhrase.not_startsPhrase {front : List Char} (h : IsPhrase (front ++ tail))
    (hfront : front ≠ []) (htail : tail ≠ []) (rest : List Char) :
    ¬ StartsPhrase (tail ++ rest) := by
  intro hstarts
  obtain ⟨more, hmore⟩ := hstarts.exists_eq
  obtain ⟨blank, hmem, hblank⟩ := h.exists_blank (List.suffix_append front tail) htail
  obtain ⟨letters, hletters, hx⟩ := h.exists_eq
  -- The tail begins with the letters of a phrase, whose second occurs but once in the other phrase.
  rcases tail with _ | ⟨c, _ | ⟨d, tail⟩⟩
  · contradiction
  · obtain rfl : c = 'e' := by simpa using (List.cons.inj hmore).1
    obtain rfl : blank = 'e' := by simpa using hmem
    exact absurd hblank (by decide)
  · obtain ⟨rfl, rfl, -⟩ : c = 'e' ∧ d = 'x' ∧ tail ++ rest = more := by simpa using hmore
    rcases front with _ | ⟨c, _ | ⟨d, front⟩⟩
    · contradiction
    · simp at hletters
    · obtain ⟨-, -, rfl⟩ : c = 'e' ∧ d = 'x' ∧ front ++ 'e' :: 'x' :: tail = letters := by
        simpa using hletters
      simp at hx

/-- A phrase at the front of two texts lies in the first of them or reaches into the second. -/
theorem StartsPhrase.append_cases (h : StartsPhrase (text ++ rest)) :
    StartsPhrase text ∨ ∃ middle more, middle ≠ [] ∧ IsPhrase (text ++ middle) ∧
      rest = middle ++ more := by
  obtain ⟨phrase, more, isPhrase, hcut⟩ := h
  obtain ⟨middle, rfl, rfl⟩ | ⟨middle, rfl, -⟩ := List.append_eq_append_iff.1 hcut
  · by_cases hmiddle : middle = []
    · subst hmiddle
      exact .inl ⟨text, [], by simpa using isPhrase, by simp⟩
    · exact .inr ⟨middle, more, hmiddle, isPhrase, rfl⟩
  · exact .inl ⟨phrase, middle, isPhrase, rfl⟩

/-- A phrase does not reach over the beginning of another. -/
theorem StartsPhrase.of_append_startsPhrase (h : StartsPhrase (text ++ rest))
    (hrest : StartsPhrase rest) (htext : text ≠ []) : StartsPhrase text := by
  obtain htext | ⟨middle, more, hmiddle, isPhrase, rfl⟩ := h.append_cases
  · exact htext
  · exact absurd hrest (isPhrase.not_startsPhrase htext hmiddle more)

/-- A phrase does not reach over a foreign character. -/
theorem StartsPhrase.of_append_cons (h : StartsPhrase (text ++ c :: rest))
    (hc : Foreign c) : StartsPhrase text := by
  obtain htext | ⟨middle, more, hmiddle, isPhrase, hrest⟩ := h.append_cases
  · exact htext
  · obtain ⟨d, middle, rfl⟩ := List.exists_cons_of_ne_nil hmiddle
    obtain ⟨rfl, -⟩ := List.cons.inj hrest
    exact absurd (by simp) (isPhrase.not_mem hc)

/-- A phrase does not end in a text without white space. -/
theorem StartsPhrase.of_append_word (h : StartsPhrase (text ++ word))
    (hword : ∀ c ∈ word, Text.isBlank c = false) : StartsPhrase text := by
  obtain htext | ⟨middle, more, hmiddle, isPhrase, rfl⟩ := h.append_cases
  · exact htext
  · obtain ⟨c, hmem, hblank⟩ := isPhrase.exists_blank (List.suffix_append text middle) hmiddle
    simp [hword c (List.mem_append_left more hmem)] at hblank

end WidgetPipeline.Export
