import WidgetPipeline.Proofs.Json.Scalars

/-!
# What is written is read back

The reader accepts every way to write a value, whatever follows that does not prolong it, and finds
the value (`Reads`, `reads`). So a document with nothing but white space around a written value is
read as that value (`read?_of_writes`), and the compact and the indented text of a value are read
back as it (`read?_compact`, `read?_indented`).
-/

namespace WidgetPipeline.Json

variable {space cs rest text tail : List Char}

theorem skipSpace_append (hspace : Space space) : skipSpace (space ++ cs) = skipSpace cs :=
  List.dropWhile_append_of_pos hspace

theorem skipSpace_cons {c : Char} (h : isSpace c = false) : skipSpace (c :: cs) = c :: cs := by
  simp [skipSpace, h]

/-- White space does not prolong a number. -/
theorem Ends.of_space (hspace : Space space) (hends : Ends cs) : Ends (space ++ cs) := by
  cases space with
  | nil => exact hends
  | cons c space =>
    intro d hd
    obtain rfl : c = d := by simpa using hd
    have hc : isSpace c = true := hspace c (by simp)
    simp only [isSpace, Bool.or_eq_true, decide_eq_true_eq] at hc
    rcases hc with ((rfl | rfl) | rfl) | rfl <;> decide

theorem WritesItems.ends {items : List Json} (h : WritesItems items tail) : Ends (tail ++ rest) := by
  cases h with
  | close hspace => simpa using Ends.of_space hspace (by simp [Ends])
  | item hbefore => simpa using Ends.of_space hbefore (by simp [Ends])

theorem WritesFields.ends {fields : List (String × Json)} (h : WritesFields fields tail) :
    Ends (tail ++ rest) := by
  cases h with
  | close hspace => simpa using Ends.of_space hspace (by simp [Ends])
  | field _ hspace => simpa using Ends.of_space hspace (by simp [Ends])

theorem BeginsNumber.not_space {c : Char} (h : BeginsNumber c) : isSpace c = false := by
  simp only [isSpace, Bool.or_eq_false_iff, decide_eq_false_iff_not]
  exact ⟨⟨⟨h.ne (by decide), h.ne (by decide)⟩, h.ne (by decide)⟩, h.ne (by decide)⟩

theorem readValue_number {c : Char} (h : BeginsNumber c) (fuel : Nat) :
    readValue (fuel + 1) (c :: cs) =
      (readNumeral (c :: cs)).map fun (numeral, rest) => (.number numeral.value?, rest) := by
  rw [readValue.eq_def, skipSpace_cons h.not_space]
  split <;> simp_all [BeginsNumber]

theorem readValue_space (hspace : Space space) (fuel : Nat) :
    readValue fuel (space ++ cs) = readValue fuel cs := by
  rw [readValue.eq_def, readValue.eq_def fuel cs, skipSpace_append hspace]

theorem Writes.head {value : Json} (h : Writes value text) :
    ∃ c cs, text = c :: cs ∧ isSpace c = false ∧ c ≠ ']' := by
  cases h with
  | @number n =>
    obtain ⟨c, cs, hcut, hc⟩ := integerText_cons n
    exact ⟨c, cs, hcut, hc.not_space, hc.ne (by decide)⟩
  | _ => exact ⟨_, _, rfl, by decide, by decide⟩

theorem Writes.length_pos {value : Json} (h : Writes value text) : 0 < text.length := by
  obtain ⟨c, cs, rfl, -⟩ := h.head
  simp

theorem WritesItems.length_pos {items : List Json} (h : WritesItems items tail) :
    0 < tail.length := by
  cases h <;> exact List.length_pos_iff.2 (by simp)

theorem WritesFields.length_pos {fields : List (String × Json)} (h : WritesFields fields tail) :
    0 < tail.length := by
  cases h <;> exact List.length_pos_iff.2 (by simp)

/-- That the reader, with some fuel, reads every written value, every list of items and every list
of fields that the fuel suffices for. -/
structure Reads (fuel : Nat) : Prop where
  value : ∀ {value : Json} {text rest : List Char}, Writes value text → text.length ≤ fuel →
    Ends rest → readValue fuel (text ++ rest) = some (.ofJson value, rest)
  items : ∀ {item : Json} {items : List Json} {space text tail rest : List Char}, Space space →
    Writes item text → WritesItems items tail → text.length + tail.length ≤ fuel →
    readItems fuel (space ++ (text ++ (tail ++ rest))) =
      some (Document.ofItems (item :: items), rest)
  fields : ∀ {key : String} {value : Json} {fields : List (String × Json)}
    {before behind gap text tail rest : List Char}, Space before → Space behind → Space gap →
    Writes value text → WritesFields fields tail → text.length + tail.length ≤ fuel →
    readFields fuel (keyText before key behind gap ++ (text ++ (tail ++ rest))) =
      some (Document.ofFields ((key, value) :: fields), rest)

section Steps

variable {fuel : Nat} {key : String} {value : Document} {before behind gap after : List Char}

theorem readItems_last (h : readValue fuel cs = some (value, after))
    (hclose : skipSpace after = ']' :: rest) : readItems (fuel + 1) cs = some ([value], rest) := by
  simp [readItems, h, hclose]

theorem readItems_more (h : readValue fuel cs = some (value, after))
    (hcomma : skipSpace after = ',' :: rest) :
    readItems (fuel + 1) cs =
      (readItems fuel rest).map fun (items, rest) => (value :: items, rest) := by
  simp [readItems, h, hcomma]

theorem readFields_last (hbefore : Space before) (hbehind : Space behind)
    (h : readValue fuel (gap ++ cs) = some (value, after))
    (hclose : skipSpace after = '}' :: rest) :
    readFields (fuel + 1) (keyText before key behind gap ++ cs) =
      some ([(some key, value)], rest) := by
  simp [readFields, keyText, quote, skipSpace_append hbefore, skipSpace_append hbehind,
    skipSpace_cons, isSpace, readString_quoted, h, hclose]

theorem readFields_more (hbefore : Space before) (hbehind : Space behind)
    (h : readValue fuel (gap ++ cs) = some (value, after))
    (hcomma : skipSpace after = ',' :: rest) :
    readFields (fuel + 1) (keyText before key behind gap ++ cs) =
      (readFields fuel rest).map fun (fields, rest) => ((some key, value) :: fields, rest) := by
  simp [readFields, keyText, quote, skipSpace_append hbefore, skipSpace_append hbehind,
    skipSpace_cons, isSpace, readString_quoted, h, hcomma]

end Steps

theorem reads_value {fuel : Nat} (ih : Reads fuel) {value : Json} (h : Writes value text)
    (hfuel : text.length ≤ fuel + 1) (hends : Ends rest) :
    readValue (fuel + 1) (text ++ rest) = some (.ofJson value, rest) := by
  cases h with
  | null => simp [readValue, skipSpace, isSpace, Document.ofJson]
  | trueWord => simp [readValue, skipSpace, isSpace, Document.ofJson]
  | falseWord => simp [readValue, skipSpace, isSpace, Document.ofJson]
  | @number n fits =>
    obtain ⟨c, cs, hcut, hc⟩ := integerText_cons n
    have hread := readNumeral_integerText n hends
    rw [hcut, List.cons_append] at hread ⊢
    simp [readValue_number hc, hread, value?_integerNumeral fits, Document.ofJson]
  | negativeZero =>
    have hminus : BeginsNumber '-' := .inr rfl
    simp [readValue_number hminus, readNumeral_negativeZero hends, value?_negativeZeroNumeral,
      Document.ofJson]
  | @string s =>
    simp [readValue, skipSpace, isSpace, quote, readString_quoted, Document.ofJson]
  | emptyArray hspace =>
    simp [readValue, skipSpace_cons, isSpace, skipSpace_append hspace, Document.ofJson,
      Document.ofItems]
  | @array item items space text tail hspace hitem hitems =>
    have hread : readItems fuel (text ++ (tail ++ rest)) =
        some (Document.ofItems (item :: items), rest) :=
      ih.items .nil hitem hitems (by simp at hfuel; omega)
    -- The array is not taken for an empty one: no value begins with a bracket that closes.
    obtain ⟨c, cs, rfl, hc, hbracket⟩ := hitem.head
    rw [List.cons_append] at hread
    simp [readValue, skipSpace_cons, isSpace, skipSpace_append hspace, skipSpace_cons hc, hbracket,
      hread, Document.ofJson]
  | emptyObject hspace =>
    simp [readValue, skipSpace_cons, isSpace, skipSpace_append hspace, Document.ofJson,
      Document.ofFields]
  | @object key value fields before behind gap text tail hbefore hbehind hgap hvalue hfields =>
    have hread : readFields fuel (keyText [] key behind gap ++ (text ++ (tail ++ rest))) =
        some (Document.ofFields ((key, value) :: fields), rest) :=
      ih.fields .nil hbehind hgap hvalue hfields (by simp at hfuel; omega)
    simp only [keyText, quote, List.nil_append, List.cons_append, List.append_assoc] at hread
    simp [readValue, keyText, quote, skipSpace_cons, isSpace, skipSpace_append hbefore, hread,
      Document.ofJson]

theorem reads_items {fuel : Nat} (ih : Reads fuel) {item : Json} {items : List Json}
    (hspace : Space space) (hitem : Writes item text) (hitems : WritesItems items tail)
    (hfuel : text.length + tail.length ≤ fuel + 1) :
    readItems (fuel + 1) (space ++ (text ++ (tail ++ rest))) =
      some (Document.ofItems (item :: items), rest) := by
  have hfirst : readValue fuel (space ++ (text ++ (tail ++ rest))) =
      some (.ofJson item, tail ++ rest) := by
    rw [readValue_space hspace]
    exact ih.value hitem (by have := hitems.length_pos; omega) hitems.ends
  have htext := hitem.length_pos
  cases hitems with
  | @close space hclose =>
    have hskip : skipSpace (space ++ [']'] ++ rest) = ']' :: rest := by
      simp [skipSpace_append hclose, skipSpace_cons, isSpace]
    rw [readItems_last hfirst hskip]
    rfl
  | @item next items before behind text tail hbefore hbehind hnext hitems =>
    have hskip : skipSpace (before ++ ',' :: (behind ++ (text ++ tail)) ++ rest) =
        ',' :: (behind ++ (text ++ (tail ++ rest))) := by
      simp [skipSpace_append hbefore, skipSpace_cons, isSpace]
    rw [readItems_more hfirst hskip, ih.items hbehind hnext hitems (by simp at hfuel; omega)]
    rfl

theorem reads_fields {fuel : Nat} (ih : Reads fuel) {key : String} {value : Json}
    {fields : List (String × Json)} {before behind gap : List Char} (hbefore : Space before)
    (hbehind : Space behind) (hgap : Space gap) (hvalue : Writes value text)
    (hfields : WritesFields fields tail) (hfuel : text.length + tail.length ≤ fuel + 1) :
    readFields (fuel + 1) (keyText before key behind gap ++ (text ++ (tail ++ rest))) =
      some (Document.ofFields ((key, value) :: fields), rest) := by
  have hfirst : readValue fuel (gap ++ (text ++ (tail ++ rest))) =
      some (.ofJson value, tail ++ rest) := by
    rw [readValue_space hgap]
    exact ih.value hvalue (by have := hfields.length_pos; omega) hfields.ends
  have htext := hvalue.length_pos
  cases hfields with
  | @close space hclose =>
    have hskip : skipSpace (space ++ ['}'] ++ rest) = '}' :: rest := by
      simp [skipSpace_append hclose, skipSpace_cons, isSpace]
    rw [readFields_last hbefore hbehind hfirst hskip]
    rfl
  | @field next item fields space before' behind' gap' text tail hspace hbefore' hbehind' hgap' hitem
      hfields =>
    have hskip : skipSpace
          (space ++ ',' :: (keyText before' next behind' gap' ++ (text ++ tail)) ++ rest) =
        ',' :: (keyText before' next behind' gap' ++ (text ++ (tail ++ rest))) := by
      simp [skipSpace_append hspace, skipSpace_cons, isSpace]
    rw [readFields_more hbefore hbehind hfirst hskip,
      ih.fields hbefore' hbehind' hgap' hitem hfields (by simp at hfuel; omega)]
    rfl

/-- Every step of the reader takes at least one character, so that fuel for each of them is
enough. -/
theorem reads (fuel : Nat) : Reads fuel := by
  induction fuel with
  | zero =>
    refine ⟨?_, ?_, ?_⟩
    · intro value text rest h hfuel
      have := h.length_pos
      omega
    · intro item items space text tail rest _ h _ hfuel
      have := h.length_pos
      omega
    · intro key value fields before behind gap text tail rest _ _ _ h _ hfuel
      have := h.length_pos
      omega
  | succ fuel ih => exact ⟨reads_value ih, reads_items ih, reads_fields ih⟩

/-- A document that is a written value with white space around it is read as the value. -/
theorem read?_of_writes {value : Json} {behind : List Char} (h : Writes value text)
    (hspace : Space space) (hbehind : Space behind) :
    Document.read? (String.ofList (space ++ (text ++ behind))) = some (.ofJson value) := by
  have hends : Ends behind := by
    rw [← List.append_nil behind]
    exact .of_space hbehind (by simp [Ends])
  have hskip : skipSpace behind = [] := by
    rw [← List.append_nil behind, skipSpace_append hbehind]
    rfl
  have hread : readValue (2 * (space ++ (text ++ behind)).length + 1) (space ++ (text ++ behind)) =
      some (.ofJson value, behind) := by
    rw [readValue_space hspace]
    exact (reads _).value h (by simp; omega) hends
  simp only [Document.read?, String.toList_ofList, hread, hskip]
  rfl

/-- The compact text of a value is read back as the value. -/
theorem read?_compact {value : Json} (h : value.Integral) :
    Document.read? value.compact = some (.ofJson value) := by
  simpa [compact] using read?_of_writes (writes_compactChars h) .nil .nil

/-- The indented text of a value is read back as the value, also with white space behind it. -/
theorem read?_indented {value : Json} (h : value.Integral) {behind : List Char}
    (hbehind : Space behind) :
    Document.read? (value.indented ++ String.ofList behind) = some (.ofJson value) := by
  simpa [indented] using read?_of_writes (writes_indentedChars h 0) .nil hbehind

end WidgetPipeline.Json
