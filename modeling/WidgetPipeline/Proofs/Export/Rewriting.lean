import WidgetPipeline.Proofs.Export.Splitting

/-!
# What becomes of the phrases

Of the phrases of a text the first that names what it exports becomes a call, and the first of the
others a plain return (`toFunctionBody_phrases`). Each of the two steps is described on the parts of
a text, and each leaves a text with one phrase less: the inserted words hold none and join with
nothing around them (`Splits.append_return`).
-/

namespace WidgetPipeline.Export

/-- A name stands at the front of the text, and a semicolon follows it. -/
structure NameAhead (cs name rest : List Char) : Prop where
  cut : cs = name ++ ';' :: rest
  ne_nil : name ≠ []
  word : ∀ c ∈ name, Text.isWordChar c = true

/-- The phrase of the part is followed by a name and a semicolon. -/
def Part.Named (part : Part) : Prop := ∃ name rest, NameAhead part.behind name rest

/-- The word in place of a phrase. -/
def returnWord : List Char := "return ".toList

/-- What is written behind the name in a call. -/
def callEnd : List Char := "(props);".toList

/-- The text of the parts with a return in place of the first phrase. -/
def returnFirst : List Part → List Char
  | [] => []
  | first :: others => returnWord ++ (first.behind ++ others.flatMap Part.text)

/-- The text around a call, with a return in place of the first phrase in it. -/
def returnAround (before : List Part) (call : List Char) (behind : List Part) : List Char :=
  match before with
  | [] => call ++ returnFirst behind
  | before => returnFirst before ++ call ++ behind.flatMap Part.text

variable {cs ds start start' text rest name phrase : List Char} {part : Part}
  {parts parts' before behind : List Part} {code : String}

/-! ## The rules -/

theorem isBlank_of_isWordChar {c : Char} (h : Text.isWordChar c = true) :
    Text.isBlank c = false := by
  rw [Bool.eq_false_iff]
  intro hblank
  simp [Text.isWordChar_of_isBlank hblank] at h

theorem foreign_semicolon : Foreign ';' := ⟨by decide, by decide⟩

theorem foreign_n : Foreign 'n' := ⟨by decide, by decide⟩

theorem NameAhead.noBlankAhead (h : NameAhead cs name rest) : NoBlankAhead cs := by
  obtain ⟨rfl, ne_nil, word⟩ := h
  obtain ⟨c, name, rfl⟩ := List.exists_cons_of_ne_nil ne_nil
  simpa [NoBlankAhead] using isBlank_of_isWordChar (word c List.mem_cons_self)

theorem dropNamedPhrase?_eq_some_iff :
    dropNamedPhrase? cs = some (name, rest) ↔
      ∃ phrase behind, IsPhrase phrase ∧ cs = phrase ++ behind ∧ NameAhead behind name rest := by
  have hsemicolon : ∀ c ∈ (';' :: rest).head?, Text.isWordChar c = false := by
    simp only [List.head?_cons, Option.mem_some_iff, forall_eq']
    decide
  constructor
  · intro h
    obtain ⟨behind, hread, hmatch⟩ := Option.bind_eq_some_iff.1 h
    obtain ⟨phrase, isPhrase, hcut, -⟩ := dropPhrase?_eq_some_iff.1 hread
    refine ⟨phrase, behind, isPhrase, hcut, ?_⟩
    simp only at hmatch
    split at hmatch
    · contradiction
    · rename_i hdrop hne
      obtain ⟨rfl, rfl⟩ := Prod.mk.inj (Option.some.inj hmatch)
      obtain ⟨hbehind, hword, -⟩ := Text.takeWhile_dropWhile_iff.1 ⟨rfl, hdrop⟩
      exact ⟨hbehind, hne, hword⟩
    · contradiction
  · rintro ⟨phrase, behind, isPhrase, rfl, ahead⟩
    have hread := dropPhrase?_phrase isPhrase ahead.noBlankAhead
    obtain ⟨rfl, ne_nil, word⟩ := ahead
    obtain ⟨htake, hdrop⟩ := Text.takeWhile_dropWhile_iff.2 ⟨rfl, word, hsemicolon⟩
    simp only [dropNamedPhrase?, hread, Option.bind_eq_bind, Option.bind_some, htake, hdrop]

/-- A named phrase at the front of a text becomes a call. -/
theorem callRule_of_nameAhead (isPhrase : IsPhrase phrase) (ahead : NameAhead cs name rest) :
    callRule (phrase ++ cs) = some (returnWord ++ name ++ callEnd, rest) := by
  have hnamed : dropNamedPhrase? (phrase ++ cs) = some (name, rest) :=
    dropNamedPhrase?_eq_some_iff.2 ⟨phrase, cs, isPhrase, rfl, ahead⟩
  rw [callRule, hnamed]
  rfl

theorem callRule_eq_none (h : ∀ phrase behind, IsPhrase phrase → cs = phrase ++ behind →
    ∀ name rest, ¬ NameAhead behind name rest) : callRule cs = none := by
  rw [callRule, Option.map_eq_none_iff, Option.eq_none_iff_forall_ne_some]
  rintro ⟨name, rest⟩ hnamed
  obtain ⟨phrase, behind, isPhrase, hcut, ahead⟩ := dropNamedPhrase?_eq_some_iff.1 hnamed
  exact h phrase behind isPhrase hcut name rest ahead

theorem callRule_of_not_startsPhrase (h : ¬ StartsPhrase cs) : callRule cs = none :=
  callRule_eq_none fun phrase behind isPhrase hcut => absurd ⟨phrase, behind, isPhrase, hcut⟩ h

theorem returnRule_of_not_startsPhrase (h : ¬ StartsPhrase cs) : returnRule cs = none := by
  rw [returnRule, dropPhrase?_eq_none_iff.2 h, Option.map_none]

theorem returnRule_phrase (isPhrase : IsPhrase phrase) (ahead : NoBlankAhead cs) :
    returnRule (phrase ++ cs) = some (returnWord, cs) := by
  rw [returnRule, dropPhrase?_phrase isPhrase ahead]
  rfl

variable {rule : List Char → Option (List Char × List Char)}

theorem replaceFirst_of_some {replacement : List Char} (h : rule cs = some (replacement, rest)) :
    replaceFirst rule cs = replacement ++ rest :=
  replaceFirst.eq_1 rule cs replacement rest h

theorem replaceFirst_cons {c : Char} (h : rule (c :: cs) = none) :
    replaceFirst rule (c :: cs) = c :: replaceFirst rule cs :=
  replaceFirst.eq_3 rule c cs h

/-- The characters at which the rule does not apply stay. -/
theorem replaceFirst_append (h : ∀ tail, tail <:+ text → tail ≠ [] → rule (tail ++ rest) = none) :
    replaceFirst rule (text ++ rest) = text ++ replaceFirst rule rest := by
  induction text with
  | nil => rfl
  | cons c text ih =>
    have hfirst : rule (c :: (text ++ rest)) = none := h _ List.suffix_rfl (List.cons_ne_nil c text)
    have hothers := ih fun tail hsuffix => h tail (hsuffix.trans (List.suffix_cons c text))
    rw [List.cons_append, replaceFirst_cons hfirst, hothers, List.cons_append]

/-! ## A plain return -/

theorem Splits.replaceFirst_returnRule (h : Splits cs start parts) :
    replaceFirst returnRule cs = start ++ returnFirst parts := by
  induction h with
  | nil => rfl
  | plain noPhrase _ ih =>
    rw [replaceFirst_cons (returnRule_of_not_startsPhrase noPhrase), ih, List.cons_append]
  | phrase cut isPhrase ahead splits =>
    rw [cut, replaceFirst_of_some (returnRule_phrase isPhrase ahead), splits.eq_joined]
    rfl

/-! ## A call -/

/-- A name and its semicolon end in front of the next phrase, since the name would go on over the
white space in it. -/
theorem NameAhead.of_append (h : NameAhead (text ++ parts.flatMap Part.text) name rest)
    (isPhrase : ∀ part ∈ parts, IsPhrase part.phrase) : ∃ rest, NameAhead text name rest := by
  obtain ⟨hcut, ne_nil, word⟩ := h
  have hstarts : ∀ middle, parts.flatMap Part.text = middle ++ ';' :: rest →
      StartsPhrase middle := by
    intro middle hparts
    cases parts with
    | nil => simp at hparts
    | cons first others =>
      have hfirst : StartsPhrase (middle ++ ';' :: rest) := by
        rw [← hparts, flatMap_text_cons]
        exact ⟨first.phrase, _, isPhrase first List.mem_cons_self, rfl⟩
      exact hfirst.of_append_cons foreign_semicolon
  obtain ⟨middle, rfl, hparts⟩ | ⟨middle, rfl, hmiddle⟩ := List.append_eq_append_iff.1 hcut
  · obtain ⟨phrase, more, isPhrase, rfl⟩ := hstarts middle hparts
    obtain ⟨c, hmem, hblank⟩ := isPhrase.exists_blank List.suffix_rfl isPhrase.ne_nil
    have hword := word c (by simp [hmem])
    simp [isBlank_of_isWordChar hword] at hblank
  · cases middle with
    | nil => exact absurd (hstarts [] hmiddle.symm) not_startsPhrase_nil
    | cons c middle =>
      obtain ⟨rfl, -⟩ := List.cons.inj hmiddle
      exact ⟨middle, rfl, ne_nil, word⟩

/-- The first step passes over the phrases that are not named. -/
theorem Splits.replaceFirst_callRule_skip (h : Splits cs start (before ++ behind))
    (unnamed : ∀ part ∈ before, ¬ part.Named) :
    replaceFirst callRule cs =
      start ++ before.flatMap Part.text ++ replaceFirst callRule (behind.flatMap Part.text) := by
  generalize hparts : before ++ behind = parts at h
  induction h generalizing before with
  | nil =>
    obtain ⟨rfl, rfl⟩ := List.append_eq_nil_iff.1 hparts
    rfl
  | plain noPhrase _ ih =>
    rw [replaceFirst_cons (callRule_of_not_startsPhrase noPhrase), ih unnamed hparts]
    simp
  | @phrase cs phrase rest start parts cut isPhrase ahead splits ih =>
    cases before with
    | nil =>
      obtain rfl : behind = ⟨phrase, start⟩ :: parts := hparts
      simp [cut, splits.eq_joined, Part.text]
    | cons first before =>
      rw [List.cons_append, List.cons.injEq] at hparts
      obtain ⟨rfl, rfl⟩ := hparts
      have hrest := ih (fun part hmem => unnamed part (List.mem_cons_of_mem _ hmem)) rfl
      -- The rule could apply at the front of the phrase only, where the name is missing.
      have hphrase : ∀ tail, tail <:+ phrase → tail ≠ [] → callRule (tail ++ rest) = none := by
        rintro tail ⟨front, rfl⟩ htail
        by_cases hfront : front = []
        · subst hfront
          refine callRule_eq_none fun other behind' isPhrase' hcut name more ahead' => ?_
          obtain ⟨rfl, rfl⟩ := isPhrase.append_inj ahead isPhrase' ahead'.noBlankAhead hcut
          rw [splits.eq_joined] at ahead'
          obtain ⟨more, hname⟩ := ahead'.of_append splits.isPhrase
          exact unnamed _ List.mem_cons_self ⟨name, more, hname⟩
        · exact callRule_of_not_startsPhrase (isPhrase.not_startsPhrase hfront htail rest)
      rw [cut, replaceFirst_append hphrase, hrest]
      simp [Part.text]

theorem Splits.replaceFirst_callRule (h : Splits cs start (before ++ part :: behind))
    (unnamed : ∀ other ∈ before, ¬ other.Named) (ahead : NameAhead part.behind name rest) :
    replaceFirst callRule cs = start ++ before.flatMap Part.text ++
      (returnWord ++ name ++ callEnd ++ (rest ++ behind.flatMap Part.text)) := by
  obtain ⟨-, isPhrase, -⟩ := h.cut
  have hfirst : NameAhead (part.behind ++ behind.flatMap Part.text) name
      (rest ++ behind.flatMap Part.text) :=
    ⟨by simp [ahead.cut], ahead.ne_nil, ahead.word⟩
  have hcall := replaceFirst_of_some (callRule_of_nameAhead isPhrase hfirst)
  rw [h.replaceFirst_callRule_skip unnamed, flatMap_text_cons, hcall]

theorem Splits.replaceFirst_callRule_of_unnamed (h : Splits cs start parts)
    (unnamed : ∀ part ∈ parts, ¬ part.Named) : replaceFirst callRule cs = cs := by
  have hskip := Splits.replaceFirst_callRule_skip (by simpa using h : Splits cs start (parts ++ []))
    unnamed
  rw [hskip, h.eq_joined]
  exact List.append_nil _

/-! ## The phrases that are left -/

/-- A return between two texts changes nothing about their phrases. -/
theorem Splits.append_return (h : Splits cs start parts) (h' : Splits ds start' parts') :
    Splits (cs ++ (returnWord ++ ds)) (extend (returnWord ++ start') start parts).1
      ((extend (returnWord ++ start') start parts).2 ++ parts') := by
  -- Nothing reaches over the last letter of the word, and no phrase begins with the blank.
  have hword : returnWord = ['r', 'e', 't', 'u', 'r'] ++ ['n', ' '] := rfl
  have noPhrase : ¬ StartsPhrase (' ' :: ds) := by
    intro hstarts
    obtain ⟨tail, htail⟩ := hstarts.exists_eq
    simp at htail
  have hletters : ∀ c ∈ ['r', 'e', 't', 'u', 'r'], Text.isBlank c = false := by
    simpa using (by decide : ['r', 'e', 't', 'u', 'r'].any Text.isBlank = false)
  have happend := (h.append_word hletters).append_cons (.plain noPhrase h') foreign_n
  rw [extend_extend] at happend
  simpa [hword] using happend

/-- Neither does a call. -/
theorem Splits.append_call (h : Splits cs start parts) (h' : Splits ds start' parts')
    (hname : ∀ c ∈ name, Text.isWordChar c = true) :
    Splits (cs ++ (returnWord ++ name ++ callEnd ++ ds))
      (extend (returnWord ++ name ++ callEnd ++ start') start parts).1
      ((extend (returnWord ++ name ++ callEnd ++ start') start parts).2 ++ parts') := by
  have hend : callEnd = ['(', 'p', 'r', 'o', 'p', 's', ')'] ++ [';'] := rfl
  have hprops : ∀ c ∈ ['(', 'p', 'r', 'o', 'p', 's', ')'], Text.isBlank c = false := by
    simpa using (by decide : ['(', 'p', 'r', 'o', 'p', 's', ')'].any Text.isBlank = false)
  have hword : ∀ c ∈ name ++ ['(', 'p', 'r', 'o', 'p', 's', ')'], Text.isBlank c = false := by
    intro c hmem
    rcases List.mem_append.1 hmem with hmem | hmem
    · exact isBlank_of_isWordChar (hname c hmem)
    · exact hprops c hmem
  have hcall := (splits_word hword).append_cons h' foreign_semicolon
  have happend := h.append_return hcall
  simpa [hend, extend] using happend

/-- Where the first phrase has become a plain return, the others are left. -/
theorem Splits.exists_returnFirst (h : Splits cs start parts) :
    ∃ start', Splits (start ++ returnFirst parts) start' parts.tail := by
  cases parts with
  | nil =>
    obtain rfl : cs = start := by simpa using h.eq_joined
    exact ⟨cs, by simpa [returnFirst] using h⟩
  | cons first others =>
    have hfirst : Splits cs start ([] ++ first :: others) := h
    obtain ⟨hstart, -, -, hothers⟩ := hfirst.cut
    have hreturn := hstart.append_return hothers
    exact ⟨start ++ (returnWord ++ first.behind), by
      simpa [returnFirst, extend] using hreturn⟩

/-- Where a named phrase has become a call, those before and behind it are left. -/
theorem Splits.call (h : Splits cs start (before ++ part :: behind))
    (ahead : NameAhead part.behind name rest) :
    Splits (start ++ before.flatMap Part.text ++
        (returnWord ++ name ++ callEnd ++ (rest ++ behind.flatMap Part.text)))
      (extend (returnWord ++ name ++ callEnd ++ rest) start before).1
      ((extend (returnWord ++ name ++ callEnd ++ rest) start before).2 ++ behind) := by
  obtain ⟨hbefore, -, -, hbehind⟩ := h.cut
  have hrest : Splits (name ++ [';'] ++ (rest ++ behind.flatMap Part.text))
      (name ++ [';'] ++ rest) behind := by
    simpa [ahead.cut] using hbehind
  exact hbefore.append_call hrest.of_append ahead.word

/-- Behind the step that makes a call, a return takes the place of the first phrase left. -/
theorem extend_returnFirst (call start : List Char) (before behind : List Part) :
    (extend call start before).1 ++ returnFirst ((extend call start before).2 ++ behind) =
      start ++ returnAround before call behind := by
  cases before with
  | nil => simp [extend, returnAround]
  | cons first others =>
    calc
      start ++ (returnWord ++ ((extend call first.behind others).1 ++
          ((extend call first.behind others).2 ++ behind).flatMap Part.text)) =
          start ++ (returnWord ++ ((extend call first.behind others).1 ++
            (extend call first.behind others).2.flatMap Part.text ++
              behind.flatMap Part.text)) := by simp
      _ = start ++ (returnWord ++ (first.behind ++ others.flatMap Part.text ++ call ++
            behind.flatMap Part.text)) := by rw [joined_extend]
      _ = start ++ returnAround (first :: others) call behind := by
        simp [returnAround, returnFirst]

theorem exists_first_named (h : ∃ part ∈ parts, part.Named) :
    ∃ before part behind name rest, parts = before ++ part :: behind ∧
      (∀ other ∈ before, ¬ other.Named) ∧ NameAhead part.behind name rest := by
  induction parts with
  | nil => simp at h
  | cons first others ih =>
    by_cases hfirst : first.Named
    · obtain ⟨name, rest, ahead⟩ := hfirst
      exact ⟨[], first, others, name, rest, rfl, by simp, ahead⟩
    · obtain ⟨before, part, behind, name, rest, rfl, unnamed, ahead⟩ :=
        ih (by simpa [hfirst] using h)
      exact ⟨first :: before, part, behind, name, rest, rfl, by simpa [hfirst] using unnamed, ahead⟩

/-- A part is named if its phrase is, wherever the text goes on. -/
theorem Splits.named_iff (h : Splits cs start (before ++ part :: behind)) :
    part.Named ↔ ∃ name rest, NameAhead (part.behind ++ behind.flatMap Part.text) name rest := by
  constructor
  · rintro ⟨name, rest, ahead⟩
    exact ⟨name, rest ++ behind.flatMap Part.text, by simp [ahead.cut], ahead.ne_nil, ahead.word⟩
  · rintro ⟨name, rest, ahead⟩
    have isPhrase : ∀ other ∈ behind, IsPhrase other.phrase := fun other hmem =>
      h.isPhrase other (by simp [hmem])
    exact ⟨name, ahead.of_append isPhrase⟩

/-! ## A text as a function body -/

theorem toList_toFunctionBody (code : String) :
    (toFunctionBody code).toList = replaceFirst returnRule (replaceFirst callRule code.toList) :=
  String.toList_ofList ..

/-- Without named phrases, the first phrase becomes a return. -/
theorem Splits.toFunctionBody_of_unnamed (h : Splits code.toList start parts)
    (unnamed : ∀ part ∈ parts, ¬ part.Named) :
    (toFunctionBody code).toList = start ++ returnFirst parts := by
  rw [toList_toFunctionBody, h.replaceFirst_callRule_of_unnamed unnamed, h.replaceFirst_returnRule]

/-- The first named phrase becomes a call, and the first of the others a return. -/
theorem Splits.toFunctionBody_of_named (h : Splits code.toList start (before ++ part :: behind))
    (unnamed : ∀ other ∈ before, ¬ other.Named) (ahead : NameAhead part.behind name rest) :
    (toFunctionBody code).toList =
      start ++ returnAround before (returnWord ++ name ++ callEnd ++ rest) behind := by
  rw [toList_toFunctionBody, h.replaceFirst_callRule unnamed ahead,
    (h.call ahead).replaceFirst_returnRule, extend_returnFirst]

/-- The phrases that are left are phrases of the text. -/
theorem Splits.exists_toFunctionBody (h : Splits code.toList start parts) :
    ∃ start' parts', Splits (toFunctionBody code).toList start' parts' ∧
      (parts'.map Part.phrase).Sublist (parts.map Part.phrase) ∧
      ((∃ part ∈ parts, part.Named) → parts'.length = parts.length - min parts.length 2) ∧
      ((∀ part ∈ parts, ¬ part.Named) → parts'.length = parts.length - min parts.length 1) := by
  by_cases hnamed : ∃ part ∈ parts, part.Named
  · obtain ⟨before, part, behind, name, rest, rfl, unnamed, ahead⟩ := exists_first_named hnamed
    obtain ⟨start', hleft⟩ := (h.call ahead).exists_returnFirst
    rw [extend_returnFirst, ← h.toFunctionBody_of_named unnamed ahead] at hleft
    have hphrases := map_phrase_extend (returnWord ++ name ++ callEnd ++ rest) start before
    have hlength := congrArg List.length hphrases
    rw [List.length_map, List.length_map] at hlength
    refine ⟨start', _, hleft, ?_, fun _ => ?_, fun h => ?_⟩
    · rw [List.map_tail, List.map_append, hphrases, List.map_append, List.map_cons]
      exact (List.tail_sublist _).trans ((List.sublist_cons_self ..).append_left _)
    · simp only [List.length_tail, List.length_append, List.length_cons, hlength]
      omega
    · exact absurd ⟨name, rest, ahead⟩ (h part (by simp))
  · have unnamed : ∀ part ∈ parts, ¬ part.Named := fun part hmem hpart => hnamed ⟨part, hmem, hpart⟩
    obtain ⟨start', hleft⟩ := h.exists_returnFirst
    rw [← h.toFunctionBody_of_unnamed unnamed] at hleft
    refine ⟨start', parts.tail, hleft, ?_, fun h => absurd h hnamed, fun _ => ?_⟩
    · exact (List.tail_sublist parts).map Part.phrase
    · rw [List.length_tail]
      omega

/-- A text that has phrases loses one at least. -/
theorem Splits.exists_fewer (h : Splits code.toList start parts) :
    ∃ start' parts', Splits (toFunctionBody code).toList start' parts' ∧
      parts'.length ≤ parts.length - 1 := by
  obtain ⟨start', parts', hleft, -, hnamed, hunnamed⟩ := h.exists_toFunctionBody
  refine ⟨start', parts', hleft, ?_⟩
  by_cases hsome : ∃ part ∈ parts, part.Named
  · rw [hnamed hsome]
    omega
  · rw [hunnamed fun part hmem hpart => hsome ⟨part, hmem, hpart⟩]
    omega

/-- A text without phrases stays as it is. -/
theorem Splits.toFunctionBody_of_nil (h : Splits code.toList start []) :
    toFunctionBody code = code := by
  rw [← String.toList_inj, h.toFunctionBody_of_unnamed (by simp), h.eq_joined]
  rfl

/-- Of the phrases of a text the first named one becomes a call, and the first of those that remain
a return. The rest of the text stays as it is, and no phrase comes about in it. -/
theorem toFunctionBody_phrases (code : String) :
    (∀ front phrase rest front' phrase' rest', Occurs code.toList front phrase rest →
      Occurs code.toList front' phrase' rest' → front.length ≤ front'.length →
        (front = front' ∧ phrase = phrase') ∨ front ++ phrase <+: front') ∧
    ∃ start parts, Splits code.toList start parts ∧
      (∀ front phrase rest, Occurs code.toList front phrase rest ↔
        ∃ before part behind, parts = before ++ part :: behind ∧
          front = start ++ before.flatMap Part.text ∧ phrase = part.phrase ∧
            rest = part.behind ++ behind.flatMap Part.text) ∧
      (∀ before part behind, parts = before ++ part :: behind →
        (part.Named ↔
          ∃ name rest, NameAhead (part.behind ++ behind.flatMap Part.text) name rest)) ∧
      ((∀ part ∈ parts, ¬ part.Named) →
        (toFunctionBody code).toList = start ++ returnFirst parts) ∧
      (∀ before part behind name rest, parts = before ++ part :: behind →
        (∀ other ∈ before, ¬ other.Named) → NameAhead part.behind name rest →
          (toFunctionBody code).toList =
            start ++ returnAround before (returnWord ++ name ++ callEnd ++ rest) behind) ∧
      (∃ start' parts', Splits (toFunctionBody code).toList start' parts' ∧
        (parts'.map Part.phrase).Sublist (parts.map Part.phrase) ∧
        ((∃ part ∈ parts, part.Named) → parts'.length = parts.length - min parts.length 2) ∧
        ((∀ part ∈ parts, ¬ part.Named) → parts'.length = parts.length - min parts.length 1)) ∧
      (parts.length ≤ 1 → toFunctionBody (toFunctionBody code) = toFunctionBody code) := by
  obtain ⟨start, parts, h⟩ := exists_splits code.toList
  refine ⟨fun _ _ _ _ _ _ hfirst hother hle => hfirst.eq_or_prefix hother hle, start, parts, h,
    fun _ _ _ => h.occurs_iff, ?_, h.toFunctionBody_of_unnamed, ?_, h.exists_toFunctionBody, ?_⟩
  · rintro before part behind rfl
    exact h.named_iff
  · rintro before part behind name rest rfl unnamed ahead
    exact h.toFunctionBody_of_named unnamed ahead
  · intro hfew
    obtain ⟨start', parts', hleft, hfewer⟩ := h.exists_fewer
    obtain rfl : parts' = [] := List.eq_nil_of_length_eq_zero (by omega)
    exact hleft.toFunctionBody_of_nil

/-- A named phrase becomes a call though it is behind one that becomes a return. -/
example :
    toFunctionBody "export default () => 1;\nexport default App;\nexport default App;\n" =
      "return () => 1;\nreturn App(props);\nexport default App;\n" := by
  decide +kernel

end WidgetPipeline.Export
