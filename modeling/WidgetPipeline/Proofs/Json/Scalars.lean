import WidgetPipeline.Proofs.Json.Grammar
import WidgetPipeline.Proofs.Text.Decimal
import WidgetPipeline.Proofs.Text.Runs
import Mathlib.Data.List.TakeDrop

/-!
# Reading strings and integers

What is written for a character inside a string is one part, and that part stands for the character
(`readParts_escape`); hence a quoted text is read as itself (`readString_quoted`). The text of an
integer is read as that integer where nothing follows that could prolong it
(`readNumeral_integerText`).
-/

namespace WidgetPipeline.Json

section Strings

/-- The character that a part of a string stands for without the part that follows. -/
def StringPart.alone? : StringPart → Option Char
  | .char c => some c
  | .unit u => charOfUnit? u

theorem textOfParts?_cons {part : StringPart} {c : Char} (h : part.alone? = some c)
    (parts : List StringPart) :
    textOfParts? (part :: parts) = (textOfParts? parts).map (c :: ·) := by
  cases part with
  | char d =>
    cases h
    rfl
  | unit u =>
    replace h : charOfUnit? u = some c := h
    -- A unit that is followed by another one could be the first half of a pair.
    match parts with
    | [] | .char _ :: _ | .unit _ :: _ => simp [textOfParts?, h]

theorem hexValue?_digitChar : ∀ n < 16, hexValue? (Nat.digitChar n) = some n := by decide

theorem hexByte_of_control :
    ∀ n < 0x20, hexByte n = [Nat.digitChar (n / 16), Nat.digitChar (n % 16)] := by decide

theorem charOfUnit?_toNat (c : Char) : charOfUnit? c.toNat = some c := by
  have hvalid : c.toNat.isValidChar := c.valid
  rw [charOfUnit?, dif_pos hvalid]
  rfl

/-- A control character is written as its unit. -/
theorem readParts_control {c : Char} (h : c.toNat < 0x20) (cs : List Char) :
    readParts ('\\' :: 'u' :: '0' :: '0' :: (hexByte c.toNat ++ cs)) =
      (readParts cs).map fun (parts, rest) => (.unit c.toNat :: parts, rest) := by
  have hzero : hexValue? '0' = some 0 := by decide
  have hhigh := hexValue?_digitChar (c.toNat / 16) (by omega)
  have hlow := hexValue?_digitChar (c.toNat % 16) (by omega)
  have hunit : c.toNat / 16 * 16 + c.toNat % 16 = c.toNat := by omega
  simp [hexByte_of_control c.toNat h, readParts, hzero, hhigh, hlow, hunit]

/-- Any other character than the quote and the backslash is written as it is. -/
theorem readParts_plain {c : Char} (hquote : c ≠ '"') (hback : c ≠ '\\')
    (h : ¬ c.toNat < 0x20) (cs : List Char) :
    readParts (c :: cs) = (readParts cs).map fun (parts, rest) => (.char c :: parts, rest) := by
  rw [readParts.eq_def]
  split
  case h_5 heq =>
    cases heq
    rw [if_neg (not_or.2 ⟨hback, h⟩)]
  all_goals simp_all

/-- What is written for a character is read as one part that stands for it. -/
theorem readParts_escape (c : Char) : ∃ part : StringPart, part.alone? = some c ∧ ∀ cs,
    readParts (escape c ++ cs) = (readParts cs).map fun (parts, rest) => (part :: parts, rest) := by
  unfold escape
  split
  case h_8 =>
    split
    · next hcontrol =>
      exact ⟨.unit c.toNat, charOfUnit?_toNat c, readParts_control hcontrol⟩
    · next hquote hback _ _ _ _ _ hplain =>
      exact ⟨.char c, rfl, readParts_plain hquote hback hplain⟩
  all_goals exact ⟨.char _, rfl, fun cs => by simp [readParts, escapeChar?]⟩

/-- The text between the quotes of a written string is read as the string. -/
theorem readString_quoted (s : String) (rest : List Char) :
    readString (s.toList.flatMap escape ++ '"' :: rest) = some (some s, rest) := by
  have hparts : ∀ text : List Char, ∃ parts, textOfParts? parts = some text ∧
      readParts (text.flatMap escape ++ '"' :: rest) = some (parts, rest) := by
    intro text
    induction text with
    | nil => exact ⟨[], rfl, by simp [readParts]⟩
    | cons c text ih =>
      obtain ⟨parts, htext, hread⟩ := ih
      obtain ⟨part, hpart, hescape⟩ := readParts_escape c
      refine ⟨part :: parts, by simp [textOfParts?_cons hpart, htext], ?_⟩
      simp [List.flatMap_cons, hescape, hread]
  obtain ⟨parts, htext, hread⟩ := hparts s.toList
  simp [readString, hread, htext]

end Strings

section Integers

/-- Whether no character follows that could prolong a number. -/
def Ends (cs : List Char) : Prop :=
  ∀ c ∈ cs.head?, c.isDigit = false ∧ c ≠ '.' ∧ c ≠ 'e' ∧ c ≠ 'E'

theorem spanDigits_run {digits rest : List Char} (hdigits : ∀ c ∈ digits, c.isDigit = true)
    (hends : Ends rest) : spanDigits (digits ++ rest) = (digits, rest) := by
  have hahead : ∀ c ∈ rest.head?, c.isDigit = false := fun c hc => (hends c hc).1
  rw [spanDigits, List.span_eq_takeWhile_dropWhile, Text.takeWhile_run hdigits hahead,
    Text.dropWhile_run hdigits hahead]

theorem readWhole_toDigits (n : Nat) {rest : List Char} (hends : Ends rest) :
    readWhole (Nat.toDigits 10 n ++ rest) = some (Nat.toDigits 10 n, rest) := by
  rw [readWhole, spanDigits_run Text.isDigit_of_mem_toDigits hends]
  -- A zero stands alone, and no other number begins with one.
  by_cases hn : n = 0
  · subst hn
    rfl
  · have hhead := Text.head?_toDigits_ne_zero hn
    obtain ⟨first, others, hcut, -⟩ := Text.exists_toDigits_cons n
    rw [hcut] at hhead ⊢
    split <;> simp_all

theorem readFraction_of_ends {cs : List Char} (hends : Ends cs) :
    readFraction cs = some (none, cs) := by
  cases cs with
  | nil => rfl
  | cons c cs =>
    have := (hends c rfl).2.1
    simp [readFraction, this]

theorem readExponent_of_ends {cs : List Char} (hends : Ends cs) :
    readExponent cs = some (none, cs) := by
  cases cs with
  | nil => rfl
  | cons c cs =>
    have := (hends c rfl).2.2
    simp [readExponent, this]

/-- The first character of a number. -/
def BeginsNumber (c : Char) : Prop := c.isDigit = true ∨ c = '-'

instance : DecidablePred BeginsNumber := fun _ => inferInstanceAs (Decidable (_ ∨ _))

theorem BeginsNumber.ne {c d : Char} (h : BeginsNumber c) (hd : ¬ BeginsNumber d) : c ≠ d := by
  rintro rfl
  exact hd h

theorem integerText_cons (n : Int) : ∃ c cs, integerText n = c :: cs ∧ BeginsNumber c := by
  cases n with
  | ofNat n =>
    obtain ⟨first, others, hcut, hfirst⟩ := Text.exists_toDigits_cons n
    exact ⟨first, others, hcut, .inl hfirst⟩
  | negSucc n => exact ⟨_, _, rfl, .inr rfl⟩

/-- The parts of an integer's text. -/
def integerNumeral : Int → Numeral
  | .ofNat n => ⟨false, Nat.toDigits 10 n, none, none⟩
  | .negSucc n => ⟨true, Nat.toDigits 10 (n + 1), none, none⟩

theorem value?_integerNumeral {n : Int} (h : FitsWord n) :
    (integerNumeral n).value? = some (.integer n) := by
  obtain ⟨hlow, hhigh⟩ := h
  cases n with
  | ofNat n =>
    have hbound : n < Text.wordLimit := Int.ofNat_lt.1 hhigh
    simp [integerNumeral, Numeral.value?, Text.natOfDigits_toDigits, hbound]
  | negSucc n =>
    have hbound : n + 1 ≤ Nat.pow 2 63 := by omega
    simpa [integerNumeral, Numeral.value?, Text.natOfDigits_toDigits, Int.negSucc_eq] using hbound

theorem readNumeral_integerText (n : Int) {rest : List Char} (hends : Ends rest) :
    readNumeral (integerText n ++ rest) = some (integerNumeral n, rest) := by
  cases n with
  | ofNat n =>
    obtain ⟨first, others, hcut, hfirst⟩ := Text.exists_toDigits_cons n
    have hsign : first ≠ '-' := by
      rintro rfl
      exact absurd hfirst (by decide)
    have hwhole := readWhole_toDigits n hends
    rw [hcut] at hwhole
    simp_all [readNumeral, integerText, readFraction_of_ends hends, readExponent_of_ends hends,
      integerNumeral]
  | negSucc n =>
    simp [readNumeral, integerText, readWhole_toDigits _ hends, readFraction_of_ends hends,
      readExponent_of_ends hends, integerNumeral]

/-- The parts of the text that is written for a zero with a sign. -/
def negativeZeroNumeral : Numeral := ⟨true, ['0'], some ['0'], none⟩

theorem value?_negativeZeroNumeral :
    negativeZeroNumeral.value? = some (.double (Binary64.zero true)) := by
  decide +kernel

theorem readNumeral_negativeZero {rest : List Char} (hends : Ends rest) :
    readNumeral ('-' :: '0' :: '.' :: '0' :: rest) = some (negativeZeroNumeral, rest) := by
  have hzero : ∀ c ∈ ['0'], c.isDigit = true := by simp
  have hwhole : spanDigits ('0' :: '.' :: '0' :: rest) = (['0'], '.' :: '0' :: rest) := rfl
  have hfraction : spanDigits ('0' :: rest) = (['0'], rest) := spanDigits_run hzero hends
  simp [readNumeral, readWhole, readFraction, hwhole, hfraction, readExponent_of_ends hends,
    negativeZeroNumeral]

end Integers

end WidgetPipeline.Json
