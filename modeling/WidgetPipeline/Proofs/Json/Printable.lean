import WidgetPipeline.Proofs.Json.Scalars

/-!
# Compact texts hold no control characters

Control characters are escaped in strings and stand nowhere else in a compact text
(`printable_compactChars`). So the text can be handed on where a line break or the character with the
code 0 would end it.
-/

namespace WidgetPipeline.Json

/-- The text has no control characters below the blank. -/
def Printable (cs : List Char) : Prop := ∀ c ∈ cs, 0x20 ≤ c.toNat

namespace Printable

variable {cs ds : List Char}

theorem nil : Printable [] := by simp [Printable]

theorem cons {c : Char} (hc : 0x20 ≤ c.toNat) (h : Printable cs) : Printable (c :: cs) :=
  List.forall_mem_cons.2 ⟨hc, h⟩

theorem append (h : Printable cs) (h' : Printable ds) : Printable (cs ++ ds) :=
  List.forall_mem_append.2 ⟨h, h'⟩

instance (cs : List Char) : Decidable (Printable cs) := List.decidableBAll _ cs

end Printable

theorem printable_escape (c : Char) : Printable (escape c) := by
  unfold escape
  split
  case h_8 =>
    split
    · rename_i hcontrol
      have hdigit : ∀ n < 16, 0x20 ≤ (Nat.digitChar n).toNat := by decide
      have hhigh := hdigit (c.toNat / 16) (by omega)
      have hlow := hdigit (c.toNat % 16) (by omega)
      have hmark : Printable ['\\', 'u', '0', '0'] := by decide
      rw [hexByte_of_control c.toNat hcontrol]
      exact hmark.append (.cons hhigh (.cons hlow .nil))
    · rename_i hplain
      exact .cons (Nat.le_of_not_lt hplain) .nil
  all_goals decide

theorem printable_quote (s : String) : Printable (quote s) := by
  refine .cons (by decide) (.append ?_ (by decide))
  intro c hc
  obtain ⟨d, _, hd⟩ := List.mem_flatMap.1 hc
  exact printable_escape d c hd

theorem printable_integerText (n : Int) : Printable (integerText n) := by
  have hdigits : ∀ n, Printable (Nat.toDigits 10 n) := by
    intro n c hc
    have hzero : '0'.toNat = 0x30 := rfl
    have hdigit := Char.isDigit_iff_toNat.1 (Text.isDigit_of_mem_toDigits c hc)
    omega
  cases n with
  | ofNat n => exact hdigits n
  | negSucc n => exact .cons (by decide) (hdigits (n + 1))

theorem printable_compactItems {items : List Json}
    (each : ∀ item ∈ items, Printable (compactChars item)) : Printable (compactItems items) := by
  induction items with
  | nil => decide
  | cons item items ih =>
    rw [List.forall_mem_cons] at each
    exact .cons (by decide) (.append each.1 (ih each.2))

theorem printable_compactFields {fields : List (String × Json)}
    (each : ∀ field ∈ fields, Printable (compactChars field.2)) :
    Printable (compactFields fields) := by
  induction fields with
  | nil => decide
  | cons field fields ih =>
    obtain ⟨key, value⟩ := field
    rw [List.forall_mem_cons] at each
    exact .cons (by decide)
      (.append (printable_quote key) (.cons (by decide) (.append each.1 (ih each.2))))

/-- The compact text of a value has no control characters. -/
theorem printable_compactChars {value : Json} (h : value.Integral) :
    Printable (compactChars value) := by
  induction h with
  | null => decide
  | @bool b => cases b <;> decide
  | number => exact printable_integerText _
  | negativeZero => decide
  | string => exact printable_quote _
  | @array items _ ih => cases items with
    | nil => decide
    | cons item items =>
      rw [List.forall_mem_cons] at ih
      exact .cons (by decide) (.append ih.1 (printable_compactItems ih.2))
  | @object fields _ ih => cases fields with
    | nil => decide
    | cons field fields =>
      obtain ⟨key, value⟩ := field
      rw [List.forall_mem_cons] at ih
      exact .cons (by decide) (.append (printable_quote key)
        (.cons (by decide) (.append ih.1 (printable_compactFields ih.2))))

end WidgetPipeline.Json
