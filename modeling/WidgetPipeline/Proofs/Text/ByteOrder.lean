import WidgetPipeline.Proofs.Text.Utf8

/-!
# The order of texts is the order of their bytes

Texts are compared character by character, and what they take in UTF-8 is compared byte by byte. The
two orders are the same (`encode_lt_of_compare_eq_lt`), since the encoding of a character begins lower
if the character stands lower, whatever follows (`utf8EncodeChar_append_lt`).
-/

namespace WidgetPipeline.Text

theorem cons_lt_cons_of_le {a b : Nat} {as bs : List UInt8} (hle : a ≤ b) (hb : b < 256)
    (htail : a = b → as < bs) : UInt8.ofNat a :: as < UInt8.ofNat b :: bs := by
  rw [List.cons_lt_cons_iff]
  rcases Nat.lt_or_eq_of_le hle with hlt | rfl
  · left
    rw [UInt8.lt_iff_toNat_lt, UInt8.toNat_ofNat', UInt8.toNat_ofNat']
    omega
  · exact .inr ⟨rfl, htail rfl⟩

/-- The encoding of a lower character is lower, whatever follows. -/
theorem utf8EncodeChar_append_lt {c d : Char} (h : c < d) (cs ds : List UInt8) :
    String.utf8EncodeChar c ++ cs < String.utf8EncodeChar d ++ ds := by
  have hlt : c.val.toNat < d.val.toNat := h
  have hmax : d.val.toNat < 0x110000 := by
    have hvalid := d.valid
    simp only [UInt32.isValidChar, Nat.isValidChar] at hvalid
    omega
  simp only [String.utf8EncodeChar]
  generalize c.val.toNat = m at *
  generalize d.val.toNat = n at *
  repeat' split
  all_goals refine cons_lt_cons_of_le (by omega) (by omega) fun _ => ?_
  -- The first byte tells how many follow, and so only encodings of equal length are left.
  any_goals omega
  · exact cons_lt_cons_of_le (by omega) (by omega) fun _ => by omega
  · refine cons_lt_cons_of_le (by omega) (by omega) fun _ => ?_
    exact cons_lt_cons_of_le (by omega) (by omega) fun _ => by omega
  · refine cons_lt_cons_of_le (by omega) (by omega) fun _ => ?_
    refine cons_lt_cons_of_le (by omega) (by omega) fun _ => ?_
    exact cons_lt_cons_of_le (by omega) (by omega) fun _ => by omega

theorem flatMap_utf8EncodeChar_lt {cs ds : List Char} (h : cs < ds) :
    cs.flatMap String.utf8EncodeChar < ds.flatMap String.utf8EncodeChar := by
  induction cs generalizing ds with
  | nil =>
    cases ds with
    | nil => simp at h
    | cons d ds =>
      have hne : String.utf8EncodeChar d ≠ [] := String.utf8EncodeChar_ne_nil
      obtain ⟨byte, bytes, hbytes⟩ := List.exists_cons_of_ne_nil hne
      simp [hbytes]
  | cons c cs ih =>
    cases ds with
    | nil => simp at h
    | cons d ds =>
      rw [List.flatMap_cons, List.flatMap_cons]
      rcases List.cons_lt_cons_iff.1 h with hlt | ⟨rfl, htail⟩
      · exact utf8EncodeChar_append_lt hlt _ _
      · exact List.append_left_lt (ih htail)

/-- A text in front of another has bytes in front of those of the other. -/
theorem encode_lt_of_compare_eq_lt {s t : String} (h : compare s t = .lt) :
    Utf8.encode s < Utf8.encode t := by
  have hlt : s < t := compareOfLessAndEq_eq_lt.1 h
  rw [Utf8.encode_eq, Utf8.encode_eq]
  exact flatMap_utf8EncodeChar_lt hlt

end WidgetPipeline.Text
