import WidgetPipeline.Text.Decimal

/-!
# Decimal texts of numbers

The digits that a number is written with spell that number, and no zero leads them unless the number
is zero. A number is read from every text that spells it, as long as 64 bits hold it
(`readUnsigned64?_eq_some_iff`).
-/

namespace WidgetPipeline.Text

theorem natOfDigits_toDigits (n : Nat) : natOfDigits (Nat.toDigits 10 n) = n :=
  Nat.ofDigitChars_ten_toDigits

theorem isDigit_of_mem_toDigits {n : Nat} : ∀ c ∈ Nat.toDigits 10 n, c.isDigit = true :=
  fun _ hmem => Nat.isDigit_of_mem_toDigits (by decide) (by decide) hmem

theorem exists_toDigits_cons (n : Nat) :
    ∃ first others, Nat.toDigits 10 n = first :: others ∧ first.isDigit = true := by
  obtain ⟨first, others, hcut⟩ :=
    List.exists_cons_of_ne_nil (Nat.toDigits_ne_nil : Nat.toDigits 10 n ≠ [])
  exact ⟨first, others, hcut, isDigit_of_mem_toDigits first (hcut ▸ List.mem_cons_self)⟩

theorem head?_toDigits_ne_zero {n : Nat} (h : n ≠ 0) : (Nat.toDigits 10 n).head? ≠ some '0' := by
  induction n using Nat.strongRecOn with
  | ind n ih =>
    rw [Nat.toDigits_eq_if (by decide)]
    split
    · simpa using h
    · have hrest := ih (n / 10) (by omega) (by omega)
      obtain ⟨first, others, hcut, -⟩ := exists_toDigits_cons (n / 10)
      rw [hcut] at hrest ⊢
      exact hrest

/-! ## Reading numbers -/

/-- The text spells a number in decimal digits, behind a plus sign or not. -/
def Spells (cs : List Char) (n : Nat) : Prop :=
  ∃ digits, (cs = digits ∨ cs = '+' :: digits) ∧ digits ≠ [] ∧
    (∀ c ∈ digits, c.isDigit = true) ∧ natOfDigits digits = n

theorem spells_toDigits (n : Nat) : Spells (Nat.toDigits 10 n) n :=
  ⟨Nat.toDigits 10 n, .inl rfl, Nat.toDigits_ne_nil, isDigit_of_mem_toDigits, natOfDigits_toDigits n⟩

variable {cs digits digits' : List Char} {n m : Nat}

/-- A text has one reading as a sign or none and other characters. -/
theorem unsigned_unique (h : cs = digits ∨ cs = '+' :: digits)
    (hplus : cs = digits → cs.head? ≠ some '+') (h' : cs = digits' ∨ cs = '+' :: digits')
    (hplus' : cs = digits' → cs.head? ≠ some '+') : digits = digits' := by
  rcases h with rfl | rfl
  · rcases h' with rfl | rfl
    · rfl
    · exact absurd rfl (hplus rfl)
  · rcases h' with rfl | heq
    · exact absurd rfl (hplus' rfl)
    · exact (List.cons.inj heq).2

theorem head?_ne_plus (h : ∀ c ∈ digits, c.isDigit = true) : digits.head? ≠ some '+' := by
  intro hhead
  obtain ⟨rest, rfl⟩ := List.head?_eq_some_iff.1 hhead
  exact absurd (h '+' List.mem_cons_self) (by decide)

theorem Spells.unique (h : Spells cs n) (h' : Spells cs m) : n = m := by
  obtain ⟨digits, hcut, _, hdigits, rfl⟩ := h
  obtain ⟨digits', hcut', _, hdigits', rfl⟩ := h'
  rw [unsigned_unique hcut (fun heq => heq ▸ head?_ne_plus hdigits) hcut'
    (fun heq => heq ▸ head?_ne_plus hdigits')]

/-- A text with a letter in it spells no number. -/
theorem not_spells_of_mem {c : Char} (hmem : c ∈ cs) (hdigit : c.isDigit = false) (hplus : c ≠ '+') :
    ¬ Spells cs n := by
  rintro ⟨digits, hcut, -, hdigits, -⟩
  have hdigits' : c ∈ digits := by
    rcases hcut with rfl | rfl
    · exact hmem
    · exact (List.mem_cons.1 hmem).resolve_left hplus
  simp [hdigits c hdigits'] at hdigit

/-- The digits behind the plus sign are read, or the whole text if it has none. -/
theorem readUnsigned64?_eq (cs : List Char) : ∃ digits, (cs = digits ∨ cs = '+' :: digits) ∧
    (cs = digits → cs.head? ≠ some '+') ∧
    readUnsigned64? cs =
      if digits.isEmpty || !digits.all Char.isDigit then none
      else if natOfDigits digits < wordLimit then some (natOfDigits digits) else none := by
  unfold readUnsigned64?
  split
  · rename_i digits
    exact ⟨digits, .inr rfl, fun h => absurd h (List.cons_ne_self _ _), rfl⟩
  · rename_i hplus
    refine ⟨cs, .inl rfl, fun _ hhead => ?_, rfl⟩
    obtain ⟨digits, rfl⟩ := List.head?_eq_some_iff.1 hhead
    exact hplus digits rfl

/-- A number is read if it is spelled and 64 bits hold it. -/
theorem readUnsigned64?_eq_some_iff :
    readUnsigned64? cs = some n ↔ Spells cs n ∧ n < wordLimit := by
  obtain ⟨digits, hcut, hplus, hread⟩ := readUnsigned64?_eq cs
  rw [hread]
  constructor
  · intro h
    split at h
    · contradiction
    · rename_i hdigits
      rw [Bool.or_eq_true, not_or, Bool.not_eq_true', Bool.not_eq_false] at hdigits
      split at h
      · rename_i hlt
        obtain rfl := Option.some.inj h
        exact ⟨⟨digits, hcut, by simpa using hdigits.1, List.all_eq_true.1 hdigits.2, rfl⟩, hlt⟩
      · contradiction
  · rintro ⟨⟨digits', hcut', hne, hdigits, rfl⟩, hlt⟩
    obtain rfl : digits = digits' :=
      unsigned_unique hcut hplus hcut' fun heq => heq ▸ head?_ne_plus hdigits
    have hall : digits.all Char.isDigit = true := List.all_eq_true.2 hdigits
    simp [hne, hall, hlt]

end WidgetPipeline.Text
