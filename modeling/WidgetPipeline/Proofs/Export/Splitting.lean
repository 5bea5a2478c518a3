import WidgetPipeline.Proofs.Export.Phrase

/-!
# Splitting a text at its phrases

A text splits in one way into its phrases and what stands between them (`Splits.unique`,
`exists_splits`), and there are no phrases in it besides (`Splits.exists_part`). Where two texts are
put together around a character that no phrase has in it, their phrases stay what they are
(`Splits.append_cons`), and so they do where a text without white space is added
(`Splits.append_word`).
-/

namespace WidgetPipeline.Export

/-- A phrase, and the text behind it up to the next one. -/
@[ext]
structure Part where
  phrase : List Char
  behind : List Char
deriving DecidableEq, Repr

/-- The characters of the part. -/
def Part.text (part : Part) : List Char := part.phrase ++ part.behind

/-- The phrases of a text, each with what follows it, and what stands before the first of them. A
phrase has all white space behind it. -/
inductive Splits : List Char → List Char → List Part → Prop
  | nil : Splits [] [] []
  | plain {c : Char} {cs start : List Char} {parts : List Part}
      (noPhrase : ¬ StartsPhrase (c :: cs)) (splits : Splits cs start parts) :
      Splits (c :: cs) (c :: start) parts
  | phrase {cs phrase rest start : List Char} {parts : List Part} (cut : cs = phrase ++ rest)
      (isPhrase : IsPhrase phrase) (ahead : NoBlankAhead rest) (splits : Splits rest start parts) :
      Splits cs [] (⟨phrase, start⟩ :: parts)

/-- A phrase stands in the text, between the characters in front of it and the rest. -/
structure Occurs (cs front phrase rest : List Char) : Prop where
  cut : cs = front ++ (phrase ++ rest)
  isPhrase : IsPhrase phrase
  ahead : NoBlankAhead rest

/-- The words of a default export stand somewhere in the text, with white space between them and one
character of white space behind. -/
def ExportsDefault (cs : List Char) : Prop :=
  ∃ front gap blank rest, IsGap gap ∧ Text.isBlank blank = true ∧
    cs = front ++ ("export".toList ++ (gap ++ ("default".toList ++ blank :: rest)))

variable {cs ds start start' text front phrase rest : List Char} {part : Part}
  {parts parts' before behind : List Part} {c : Char}

theorem flatMap_text_cons (part : Part) (parts : List Part) :
    (part :: parts).flatMap Part.text =
      part.phrase ++ (part.behind ++ parts.flatMap Part.text) := by
  rw [List.flatMap_cons, Part.text, List.append_assoc]

/-! ## One way to split -/

/-- The start and the parts make up the text. -/
theorem Splits.eq_joined (h : Splits cs start parts) : cs = start ++ parts.flatMap Part.text := by
  induction h with
  | nil => rfl
  | plain _ _ ih => rw [ih, List.cons_append]
  | phrase cut _ _ _ ih => simp [cut, ih, Part.text]

theorem Splits.isPhrase (h : Splits cs start parts) : ∀ part ∈ parts, IsPhrase part.phrase := by
  induction h with
  | nil => simp
  | plain _ _ ih => exact ih
  | phrase _ isPhrase _ _ ih => simpa [isPhrase] using ih

theorem Splits.unique (h : Splits cs start parts) (h' : Splits cs start' parts') :
    start = start' ∧ parts = parts' := by
  induction h generalizing start' parts' with
  | nil =>
    cases h' with
    | nil => exact ⟨rfl, rfl⟩
    | phrase cut isPhrase => exact absurd ⟨_, _, isPhrase, cut⟩ not_startsPhrase_nil
  | plain noPhrase _ ih =>
    cases h' with
    | plain _ splits' =>
      obtain ⟨rfl, rfl⟩ := ih splits'
      exact ⟨rfl, rfl⟩
    | phrase cut isPhrase => exact absurd ⟨_, _, isPhrase, cut⟩ noPhrase
  | phrase cut isPhrase ahead _ ih =>
    cases h' with
    | nil => exact absurd ⟨_, _, isPhrase, cut⟩ not_startsPhrase_nil
    | plain noPhrase => exact absurd ⟨_, _, isPhrase, cut⟩ noPhrase
    | phrase cut' isPhrase' ahead' splits' =>
      obtain ⟨rfl, rfl⟩ := isPhrase.append_inj ahead isPhrase' ahead' (cut.symm.trans cut')
      obtain ⟨rfl, rfl⟩ := ih splits'
      exact ⟨rfl, rfl⟩

theorem exists_splits (cs : List Char) : ∃ start parts, Splits cs start parts := by
  cases hread : dropPhrase? cs with
  | some rest =>
    obtain ⟨phrase, isPhrase, hcut, ahead⟩ := dropPhrase?_eq_some_iff.1 hread
    have hlt : rest.length < cs.length := by
      obtain ⟨tail, rfl, -⟩ := isPhrase.exists_eq
      simp only [hcut, List.cons_append, List.length_cons, List.length_append]
      omega
    obtain ⟨start, parts, splits⟩ := exists_splits rest
    exact ⟨[], ⟨phrase, start⟩ :: parts, .phrase hcut isPhrase ahead splits⟩
  | none =>
    cases cs with
    | nil => exact ⟨[], [], .nil⟩
    | cons c cs =>
      obtain ⟨start, parts, splits⟩ := exists_splits cs
      exact ⟨c :: start, parts, .plain (dropPhrase?_eq_none_iff.1 hread) splits⟩
termination_by cs.length

/-- Wherever a phrase stands in the text, a part begins. -/
theorem Splits.exists_part (h : Splits cs start parts) (isPhrase : IsPhrase phrase)
    (hcut : cs = front ++ (phrase ++ rest)) :
    ∃ before part behind, parts = before ++ part :: behind ∧
      front = start ++ before.flatMap Part.text := by
  induction h generalizing front with
  | nil =>
    have hempty : phrase ++ rest = [] := (List.append_eq_nil_iff.1 hcut.symm).2
    exact absurd ⟨phrase, rest, isPhrase, hempty.symm⟩ not_startsPhrase_nil
  | plain noPhrase _ ih =>
    cases front with
    | nil => exact absurd ⟨phrase, rest, isPhrase, hcut⟩ noPhrase
    | cons d front =>
      obtain ⟨rfl, htail⟩ := List.cons.inj hcut
      obtain ⟨before, part, behind, hparts, rfl⟩ := ih htail
      exact ⟨before, part, behind, hparts, rfl⟩
  | @phrase cs first rest' start parts cut isFirst ahead _ ih =>
    rw [cut] at hcut
    have hbehind : ∀ middle, rest' = middle ++ (phrase ++ rest) → ∃ before part behind,
        ⟨first, start⟩ :: parts = before ++ part :: behind ∧
          first ++ middle = [] ++ before.flatMap Part.text := by
      intro middle hrest
      obtain ⟨before, part, behind, rfl, rfl⟩ := ih hrest
      exact ⟨⟨first, start⟩ :: before, part, behind, rfl, by simp [Part.text]⟩
    -- The place lies behind the first phrase, at its front, or within it, where no phrase starts.
    obtain ⟨middle, rfl, hrest⟩ | ⟨middle, rfl, hmiddle⟩ := List.append_eq_append_iff.1 hcut
    · exact hbehind middle hrest
    · by_cases hfront : front = []
      · exact ⟨[], _, parts, rfl, by simp [hfront]⟩
      · by_cases hend : middle = []
        · subst hend
          simpa using hbehind [] hmiddle.symm
        · exact absurd ⟨phrase, rest, isPhrase, hmiddle.symm⟩
            (isFirst.not_startsPhrase hfront hend rest')

/-- Two phrases of a text do not overlap. -/
theorem Occurs.eq_or_prefix {front' phrase' rest' : List Char} (h : Occurs cs front phrase rest)
    (h' : Occurs cs front' phrase' rest') (hle : front.length ≤ front'.length) :
    (front = front' ∧ phrase = phrase') ∨ front ++ phrase <+: front' := by
  have heq := h.cut.symm.trans h'.cut
  obtain ⟨middle, rfl⟩ : front <+: front' :=
    List.prefix_of_prefix_length_le ⟨_, heq⟩ (List.prefix_append ..) hle
  rw [List.append_assoc, List.append_cancel_left_eq] at heq
  by_cases hmiddle : middle = []
  · subst hmiddle
    obtain ⟨rfl, -⟩ := h.isPhrase.append_inj h.ahead h'.isPhrase h'.ahead heq
    exact .inl ⟨(List.append_nil front).symm, rfl⟩
  · right
    rw [List.prefix_append_right_inj]
    obtain ⟨more, rfl, -⟩ | ⟨more, rfl, hmore⟩ := List.append_eq_append_iff.1 heq
    · exact List.prefix_append phrase more
    · by_cases hempty : more = []
      · simp [hempty]
      · exact absurd ⟨phrase', rest', h'.isPhrase, hmore.symm⟩
          (h.isPhrase.not_startsPhrase hmiddle hempty rest)

/-! ## Texts with a phrase -/

/-- One character of white space behind the words is enough for a phrase. -/
theorem exportsDefault_iff :
    ExportsDefault cs ↔ ∃ front rest, cs = front ++ rest ∧ StartsPhrase rest := by
  constructor
  · rintro ⟨front, gap, blank, rest, isGap, hblank, rfl⟩
    have last : IsGap [blank] := ⟨List.cons_ne_nil blank [], by simpa using hblank⟩
    exact ⟨front, _, rfl, _, rest, .words isGap last, by
      simp only [List.append_assoc, List.singleton_append]⟩
  · rintro ⟨front, _, rfl, _, rest, @⟨gap, behind, isGap, last⟩, rfl⟩
    obtain ⟨blank, behind, rfl⟩ := List.exists_cons_of_ne_nil last.ne_nil
    exact ⟨front, gap, blank, behind ++ rest, isGap, last.blank blank List.mem_cons_self,
      by simp only [List.append_assoc, List.cons_append]⟩

theorem Splits.exportsDefault_iff (h : Splits cs start parts) : ExportsDefault cs ↔ parts ≠ [] := by
  rw [Export.exportsDefault_iff]
  constructor
  · rintro ⟨front, _, hcut, phrase, rest, isPhrase, rfl⟩ hempty
    obtain ⟨before, part, behind, hparts, -⟩ := h.exists_part isPhrase hcut
    simp [hempty] at hparts
  · intro hne
    obtain ⟨first, others, rfl⟩ := List.exists_cons_of_ne_nil hne
    exact ⟨start, _, h.eq_joined, first.phrase, _, h.isPhrase first List.mem_cons_self,
      flatMap_text_cons first others⟩

theorem Splits.hasPhrase_iff (h : Splits cs start parts) : hasPhrase cs = true ↔ parts ≠ [] := by
  induction h with
  | nil => simp [hasPhrase]
  | plain noPhrase _ ih => simp [hasPhrase, dropPhrase?_eq_none_iff.2 noPhrase, ih]
  | @phrase cs phrase rest start parts cut isPhrase ahead _ _ =>
    obtain ⟨tail, htail, -⟩ := isPhrase.exists_eq
    have hread := dropPhrase?_phrase isPhrase ahead
    subst htail
    simp only [List.cons_append] at cut hread
    simp [cut, hasPhrase, hread]

theorem hasPhrase_iff (cs : List Char) : hasPhrase cs = true ↔ ExportsDefault cs := by
  obtain ⟨start, parts, h⟩ := exists_splits cs
  rw [h.hasPhrase_iff, h.exportsDefault_iff]

instance (cs : List Char) : Decidable (ExportsDefault cs) :=
  decidable_of_iff (hasPhrase cs = true) (hasPhrase_iff cs)

/-- A text without phrases is all start. -/
theorem splits_of_not_exportsDefault (h : ¬ ExportsDefault cs) : Splits cs cs [] := by
  obtain ⟨start, parts, splits⟩ := exists_splits cs
  obtain rfl : parts = [] := by simpa [splits.exportsDefault_iff] using h
  obtain rfl : cs = start := by simpa using splits.eq_joined
  exact splits

/-! ## Texts put together -/

/-- The start and the parts with more text behind the last of them. -/
def extend (text : List Char) : List Char → List Part → List Char × List Part
  | start, [] => (start ++ text, [])
  | start, part :: parts =>
    let (behind, parts) := extend text part.behind parts
    (start, ⟨part.phrase, behind⟩ :: parts)

theorem extend_cons (text : List Char) (c : Char) (start : List Char) (parts : List Part) :
    extend text (c :: start) parts =
      (c :: (extend text start parts).1, (extend text start parts).2) := by
  cases parts <;> rfl

theorem extend_nil (start : List Char) (parts : List Part) :
    extend [] start parts = (start, parts) := by
  induction parts generalizing start with
  | nil => simp [extend]
  | cons part parts ih => simp [extend, ih]

theorem joined_extend (text start : List Char) (parts : List Part) :
    (extend text start parts).1 ++ (extend text start parts).2.flatMap Part.text =
      start ++ parts.flatMap Part.text ++ text := by
  induction parts generalizing start with
  | nil => simp [extend]
  | cons part parts ih => simp [extend, Part.text, ih]

theorem map_phrase_extend (text start : List Char) (parts : List Part) :
    (extend text start parts).2.map Part.phrase = parts.map Part.phrase := by
  induction parts generalizing start with
  | nil => rfl
  | cons part parts ih => simp [extend, ih]

theorem extend_extend (text more start : List Char) (parts : List Part) :
    extend more (extend text start parts).1 (extend text start parts).2 =
      extend (text ++ more) start parts := by
  induction parts generalizing start with
  | nil => simp [extend]
  | cons part parts ih => simp [extend, ih]

theorem NoBlankAhead.append {cs ds : List Char} (h : NoBlankAhead cs) (h' : NoBlankAhead ds) :
    NoBlankAhead (cs ++ ds) := by
  cases cs with
  | nil => exact h'
  | cons c cs => exact h

theorem NoBlankAhead.of_append {cs ds : List Char} (h : NoBlankAhead (cs ++ ds)) :
    NoBlankAhead cs := by
  cases cs with
  | nil => simp [NoBlankAhead]
  | cons c cs => exact h

/-- Two texts keep their phrases where they are put together, if no phrase reaches over the seam and
no white space follows it. -/
theorem Splits.append (h : Splits cs start parts) (h' : Splits ds start' parts')
    (ahead : NoBlankAhead ds)
    (seam : ∀ tail, tail <:+ cs → StartsPhrase (tail ++ ds) → tail = [] ∨ StartsPhrase tail) :
    Splits (cs ++ ds) (extend start' start parts).1 ((extend start' start parts).2 ++ parts') := by
  induction h with
  | nil => exact h'
  | @plain c cs start parts noPhrase _ ih =>
    rw [extend_cons]
    refine .plain ?_ (ih fun tail hsuffix => seam tail (hsuffix.trans (List.suffix_cons c cs)))
    intro hstarts
    rcases seam _ List.suffix_rfl hstarts with hnil | hcons
    · contradiction
    · exact noPhrase hcons
  | @phrase cs phrase rest start parts cut isPhrase ahead' _ ih =>
    have hrest := ih fun tail hsuffix =>
      seam tail (hsuffix.trans (cut ▸ List.suffix_append phrase rest))
    exact .phrase (by rw [cut, List.append_assoc]) isPhrase (ahead'.append ahead) hrest

/-- A text without white space has no phrases in it. -/
theorem splits_word {word : List Char} (hword : ∀ c ∈ word, Text.isBlank c = false) :
    Splits word word [] := by
  induction word with
  | nil => exact .nil
  | cons c word ih =>
    have noPhrase : ¬ StartsPhrase (c :: word) := fun hstarts =>
      not_startsPhrase_nil (hstarts.of_append_word hword)
    exact .plain noPhrase (ih fun d hmem => hword d (List.mem_cons_of_mem c hmem))

theorem Splits.append_word {word : List Char} (h : Splits cs start parts)
    (hword : ∀ c ∈ word, Text.isBlank c = false) :
    Splits (cs ++ word) (extend word start parts).1 (extend word start parts).2 := by
  have ahead : NoBlankAhead word := fun c hc => hword c (List.mem_of_mem_head? hc)
  have happend := h.append (splits_word hword) ahead fun tail _ hstarts =>
    .inr (hstarts.of_append_word hword)
  simpa using happend

theorem Splits.append_cons (h : Splits cs start parts) (h' : Splits ds start' parts')
    (hc : Foreign c) :
    Splits (cs ++ c :: ds) (extend (c :: start') start parts).1
      ((extend (c :: start') start parts).2 ++ parts') := by
  have noPhrase : ¬ StartsPhrase (c :: ds) := fun hstarts =>
    not_startsPhrase_nil (hstarts.of_append_cons hc)
  have ahead : NoBlankAhead (c :: ds) := by simpa [NoBlankAhead] using hc.notBlank
  exact h.append (.plain noPhrase h') ahead fun tail _ hstarts => .inr (hstarts.of_append_cons hc)

/-- A text keeps its phrases in front of another that begins with a phrase. -/
theorem Splits.append_phrase (h : Splits cs start parts) (h' : Splits ds [] (part :: behind)) :
    Splits (cs ++ ds) start (parts ++ part :: behind) := by
  have hstarts : StartsPhrase ds := by
    refine ⟨part.phrase, part.behind ++ behind.flatMap Part.text, ?_, ?_⟩
    · exact h'.isPhrase part List.mem_cons_self
    · rw [h'.eq_joined, List.nil_append, flatMap_text_cons]
  have happend := h.append h' hstarts.noBlankAhead fun tail _ htail =>
    (Classical.em (tail = [])).imp_right fun hne => htail.of_append_startsPhrase hstarts hne
  simpa [extend_nil] using happend

/-- The text behind some characters of the start keeps its phrases. -/
theorem Splits.of_append (h : Splits (text ++ cs) (text ++ start) parts) :
    Splits cs start parts := by
  induction text with
  | nil => exact h
  | cons c text ih =>
    cases h with
    | plain _ splits => exact ih splits

/-- What stands before a part, and what stands behind its phrase, keep their phrases. -/
theorem Splits.cut (h : Splits cs start (before ++ part :: behind)) :
    Splits (start ++ before.flatMap Part.text) start before ∧ IsPhrase part.phrase ∧
      NoBlankAhead (part.behind ++ behind.flatMap Part.text) ∧
      Splits (part.behind ++ behind.flatMap Part.text) part.behind behind := by
  generalize hparts : before ++ part :: behind = parts at h
  induction h generalizing before with
  | nil => simp at hparts
  | @plain c cs start parts noPhrase splits ih =>
    obtain ⟨hbefore, hpart⟩ := ih hparts
    have htext : c :: cs = c :: (start ++ before.flatMap Part.text) ++
        (part :: behind).flatMap Part.text := by
      simp [splits.eq_joined, ← hparts]
    refine ⟨.plain (fun hstarts => noPhrase ?_) hbefore, hpart⟩
    rw [htext]
    exact hstarts.append _
  | @phrase cs phrase rest start parts cut isPhrase ahead splits ih =>
    rw [splits.eq_joined] at ahead splits
    cases before with
    | nil =>
      obtain ⟨rfl, rfl⟩ := List.cons.inj hparts
      exact ⟨.nil, isPhrase, ahead, splits⟩
    | cons first before =>
      rw [List.cons_append, List.cons.injEq] at hparts
      obtain ⟨rfl, rfl⟩ := hparts
      obtain ⟨hbefore, hpart⟩ := ih rfl
      refine ⟨.phrase (by simp [Part.text]) isPhrase ?_ hbefore, hpart⟩
      rw [List.flatMap_append, ← List.append_assoc] at ahead
      exact ahead.of_append

/-- The phrases of a text are those of its parts, each where its part begins. -/
theorem Splits.occurs_iff (h : Splits cs start parts) :
    Occurs cs front phrase rest ↔ ∃ before part behind, parts = before ++ part :: behind ∧
      front = start ++ before.flatMap Part.text ∧ phrase = part.phrase ∧
      rest = part.behind ++ behind.flatMap Part.text := by
  constructor
  · rintro ⟨hcut, isPhrase, ahead⟩
    obtain ⟨before, part, behind, rfl, rfl⟩ := h.exists_part isPhrase hcut
    obtain ⟨-, isPart, ahead', -⟩ := h.cut
    have hphrase : phrase ++ rest =
        part.phrase ++ (part.behind ++ behind.flatMap Part.text) := by
      simpa [h.eq_joined, Part.text] using hcut.symm
    obtain ⟨rfl, rfl⟩ := isPhrase.append_inj ahead isPart ahead' hphrase
    exact ⟨before, part, behind, rfl, rfl, rfl, rfl⟩
  · rintro ⟨before, part, behind, rfl, rfl, rfl, rfl⟩
    obtain ⟨-, isPhrase, ahead, -⟩ := h.cut
    exact ⟨by simp [h.eq_joined, Part.text], isPhrase, ahead⟩

end WidgetPipeline.Export
