import Mathlib.Data.List.TakeWhile
import WidgetPipeline.Text.Utf8

/-!
# Texts in bytes and back

The bytes of a character are read as that character, whatever follows (`pieces_utf8EncodeChar`), and so
a text that is encoded is decoded to itself (`decode_encode`). What a character needs of its bytes is
found on numbers: which second byte its first one allows (`exists_lead_of_three`, `exists_lead_of_four`)
and how the bits of its bytes add up (`charOf_continuation`).
-/

namespace WidgetPipeline.Text.Utf8

/-! ## Bytes as a list -/

theorem toList_loop_eq (bytes : ByteArray) (index : Nat) (before : List UInt8) :
    ByteArray.toList.loop bytes index before =
      before.reverse ++ bytes.data.toList.drop index := by
  fun_induction ByteArray.toList.loop bytes index before with
  | case1 index before hindex ih =>
    have hlist : index < bytes.data.toList.length := by simpa using hindex
    have hget : bytes.get! index = bytes.data.toList[index] := by simp [ByteArray.get!, hindex]
    rw [ih, List.drop_eq_getElem_cons hlist, hget]
    simp
  | case2 index before hindex =>
    rw [List.drop_eq_nil_of_le (by simpa using hindex), List.append_nil]

theorem encode_eq (text : String) :
    encode text = text.toList.flatMap String.utf8EncodeChar := by
  have hbytes : text.toByteArray = (text.toList.flatMap String.utf8EncodeChar).toByteArray := by
    rw [← String.utf8Encode_toList, List.utf8Encode]
  rw [encode, String.toUTF8_eq_toByteArray, hbytes, ByteArray.toList, toList_loop_eq,
    List.data_toByteArray]
  simp

/-! ## The first byte of a character -/

/-- What a number that fits into a byte says as the first byte of a character. -/
theorem lead?_ofNat {n : Nat} (hn : n < 0x100) :
    lead? (UInt8.ofNat n) =
      if n < 0xC2 then none
      else if n < 0xE0 then some { tail := 1 }
      else if n = 0xE0 then some { tail := 2, low := 0xA0 }
      else if n = 0xED then some { tail := 2, high := 0x9F }
      else if n < 0xF0 then some { tail := 2 }
      else if n = 0xF0 then some { tail := 3, low := 0x90 }
      else if n < 0xF4 then some { tail := 3 }
      else if n = 0xF4 then some { tail := 3, high := 0x8F }
      else none := by
  have hmod : n % 256 = n := Nat.mod_eq_of_lt hn
  simp [lead?, UInt8.lt_iff_toNat_lt, UInt8.toNat_ofNat', ← UInt8.toNat_inj, hmod]

/-- The byte that continues a character with the last six bits of a number. -/
def continuation (n : Nat) : UInt8 := UInt8.ofNat (n % 64 + 128)

theorem toNat_continuation (n : Nat) : (continuation n).toNat = n % 64 + 128 := by
  rw [continuation, UInt8.toNat_ofNat']
  omega

theorem continuation_bounds (n : Nat) : 0x80 ≤ continuation n ∧ continuation n ≤ 0xBF := by
  simp only [UInt8.le_iff_toNat_le, toNat_continuation, UInt8.reduceToNat]
  omega

section Lead

variable {a n : Nat}

/-- The first byte of three allows the second one, unless the two would start a number that needs
fewer bytes or one of the numbers that no character has. -/
theorem exists_lead_of_three (hlow : 0xE0 ≤ a) (hhigh : a < 0xF0)
    (hfirst : a = 0xE0 → 32 ≤ n % 64) (hgap : a = 0xED → n % 64 < 32) :
    ∃ lead, lead? (UInt8.ofNat a) = some lead ∧ lead.tail = 2 ∧
      lead.low ≤ continuation n ∧ continuation n ≤ lead.high := by
  rw [lead?_ofNat (by omega), if_neg (by omega), if_neg (by omega)]
  simp only [UInt8.le_iff_toNat_le, toNat_continuation]
  -- The first byte is `0xE0`, or `0xED`, or sets no bounds of its own.
  split
  · refine ⟨_, rfl, rfl, ?_⟩
    simp only [UInt8.reduceToNat]
    omega
  · split
    · refine ⟨_, rfl, rfl, ?_⟩
      simp only [UInt8.reduceToNat]
      omega
    · refine ⟨_, rfl, rfl, ?_⟩
      simp only [UInt8.reduceToNat]
      omega

/-- The same for the first byte of four, where the numbers have an end. -/
theorem exists_lead_of_four (hlow : 0xF0 ≤ a) (hhigh : a ≤ 0xF4)
    (hfirst : a = 0xF0 → 16 ≤ n % 64) (hlast : a = 0xF4 → n % 64 < 16) :
    ∃ lead, lead? (UInt8.ofNat a) = some lead ∧ lead.tail = 3 ∧
      lead.low ≤ continuation n ∧ continuation n ≤ lead.high := by
  rw [lead?_ofNat (by omega), if_neg (by omega), if_neg (by omega), if_neg (by omega),
    if_neg (by omega), if_neg (by omega)]
  simp only [UInt8.le_iff_toNat_le, toNat_continuation]
  -- The first byte is `0xF0`, or below `0xF4`, or `0xF4` itself.
  split
  · refine ⟨_, rfl, rfl, ?_⟩
    simp only [UInt8.reduceToNat]
    omega
  · split
    · refine ⟨_, rfl, rfl, ?_⟩
      simp only [UInt8.reduceToNat]
      omega
    · rw [if_pos (by omega)]
      refine ⟨_, rfl, rfl, ?_⟩
      simp only [UInt8.reduceToNat]
      omega

end Lead

/-! ## A character and what follows it -/

section Pieces

variable {lead : Lead} {first second : UInt8} {more : List UInt8}

/-- As many bytes belong to the first one as it says, if they can. -/
theorem trailing_eq (hlow : lead.low ≤ second) (hhigh : second ≤ lead.high)
    (hmore : ∀ b ∈ more, 0x80 ≤ b ∧ b ≤ 0xBF) (hlength : more.length + 1 = lead.tail)
    (rest : List UInt8) : trailing lead (second :: (more ++ rest)) = second :: more := by
  have htake : (second :: (more ++ rest)).take lead.tail = second :: more := by
    rw [← hlength, List.take_succ_cons, List.take_left]
  have hall : more.takeWhile (fun b => 0x80 ≤ b && b ≤ 0xBF) = more :=
    List.takeWhile_eq_self_iff.2 fun b hmem => by simpa using hmore b hmem
  simp only [trailing, htake, hall, and_self, hlow, hhigh, if_true]

theorem pieces_lead (hlead : lead? first = some lead) (hlow : lead.low ≤ second)
    (hhigh : second ≤ lead.high) (hmore : ∀ b ∈ more, 0x80 ≤ b ∧ b ≤ 0xBF)
    (hlength : more.length + 1 = lead.tail) (rest : List UInt8) :
    pieces (first :: second :: (more ++ rest)) =
      .char (charOf first (second :: more)) :: pieces rest := by
  have hfirst : ¬ first < 0x80 := by
    intro hlt
    have hsmall : first < 0xC2 := UInt8.lt_trans hlt (by decide)
    rw [lead?, if_pos hsmall] at hlead
    cases hlead
  have htail := trailing_eq hlow hhigh hmore hlength rest
  have hbehind : (second :: (more ++ rest)).drop lead.tail = rest := by
    rw [← hlength, List.drop_succ_cons, List.drop_left]
  rw [pieces, if_neg hfirst, hlead]
  simp only [htail, List.length_cons, hlength, hbehind, if_true]

end Pieces

/-- The bits of the bytes, six for each that continues a character. -/
theorem charOf_continuation (a : Nat) (ns : List Nat) :
    charOf (UInt8.ofNat a) (ns.map continuation) =
      Char.ofNat (ns.foldl (fun m n => 64 * m + n % 64) (a % 256 % Nat.pow 2 (6 - ns.length))) := by
  have hstep : ∀ m n, 0x40 * m + (continuation n).toNat % 0x40 = 64 * m + n % 64 := by
    intro m n
    rw [toNat_continuation]
    omega
  simp only [charOf, List.length_map, UInt8.toNat_ofNat', List.foldl_map, hstep]

/-- A character of several bytes is read, if its first byte allows the others and their bits add up
to its number. -/
theorem pieces_continuation {a n number : Nat} (ns : List Nat) {lead : Lead}
    (hlead : lead? (UInt8.ofNat a) = some lead) (hlow : lead.low ≤ continuation n)
    (hhigh : continuation n ≤ lead.high) (hlength : ns.length + 1 = lead.tail)
    (hnumber : (n :: ns).foldl (fun m n => 64 * m + n % 64)
      (a % 256 % Nat.pow 2 (6 - (n :: ns).length)) = number) (rest : List UInt8) :
    pieces (UInt8.ofNat a :: continuation n :: (ns.map continuation ++ rest)) =
      .char (Char.ofNat number) :: pieces rest := by
  have hmore : ∀ b ∈ ns.map continuation, 0x80 ≤ b ∧ b ≤ 0xBF := by
    intro b hmem
    obtain ⟨m, -, rfl⟩ := List.mem_map.1 hmem
    exact continuation_bounds m
  rw [pieces_lead hlead hlow hhigh hmore (by simpa using hlength), ← List.map_cons,
    charOf_continuation, hnumber]

/-- The bytes of a character are read as that character, whatever follows. -/
theorem pieces_utf8EncodeChar (c : Char) (rest : List UInt8) :
    pieces (String.utf8EncodeChar c ++ rest) = .char c :: pieces rest := by
  have hvalid : c.val.toNat < 0xD800 ∨ 0xDFFF < c.val.toNat ∧ c.val.toNat < 0x110000 := c.valid
  have hchar : Char.ofNat c.val.toNat = c := Char.ofNat_toNat c
  generalize hn : c.val.toNat = n at hvalid hchar
  subst hchar
  rw [String.utf8EncodeChar, hn]
  -- One case for each number of bytes.
  split
  · have hsmall : UInt8.ofNat n < 0x80 := by
      simp only [UInt8.lt_iff_toNat_lt, UInt8.toNat_ofNat', UInt8.reduceToNat]
      omega
    have hmod : n % 256 = n := by omega
    rw [List.singleton_append, pieces, if_pos hsmall, UInt8.toNat_ofNat', hmod]
  · split
    · have hlead : lead? (UInt8.ofNat (n / 64 % 32 + 192)) = some { tail := 1 } := by
        rw [lead?_ofNat (by omega), if_neg (by omega), if_pos (by omega)]
      obtain ⟨hlow, hhigh⟩ := continuation_bounds n
      refine pieces_continuation [] hlead hlow hhigh rfl ?_ rest
      simp only [List.foldl_cons, List.foldl_nil, List.length_cons, List.length_nil, Nat.pow_eq]
      omega
    · split
      · obtain ⟨lead, hlead, htail, hlow, hhigh⟩ :
            ∃ lead, lead? (UInt8.ofNat (n / 4096 % 16 + 224)) = some lead ∧ lead.tail = 2 ∧
              lead.low ≤ continuation (n / 64) ∧ continuation (n / 64) ≤ lead.high :=
          exists_lead_of_three (by omega) (by omega) (by omega) (by omega)
        refine pieces_continuation [n] hlead hlow hhigh htail.symm ?_ rest
        simp only [List.foldl_cons, List.foldl_nil, List.length_cons, List.length_nil, Nat.pow_eq]
        omega
      · obtain ⟨lead, hlead, htail, hlow, hhigh⟩ :
            ∃ lead, lead? (UInt8.ofNat (n / 262144 % 8 + 240)) = some lead ∧ lead.tail = 3 ∧
              lead.low ≤ continuation (n / 4096) ∧ continuation (n / 4096) ≤ lead.high :=
          exists_lead_of_four (by omega) (by omega) (by omega) (by omega)
        refine pieces_continuation [n / 64, n] hlead hlow hhigh htail.symm ?_ rest
        simp only [List.foldl_cons, List.foldl_nil, List.length_cons, List.length_nil, Nat.pow_eq]
        omega

theorem charsOf_encode (index : Nat) (cs : List Char) :
    charsOf index (pieces (cs.flatMap String.utf8EncodeChar)) = .ok cs := by
  induction cs generalizing index with
  | nil => rw [List.flatMap_nil, pieces, charsOf]
  | cons c cs ih =>
    rw [List.flatMap_cons, pieces_utf8EncodeChar, charsOf, ih]
    rfl

/-- A text that is encoded is decoded to itself. -/
theorem decode_encode (text : String) : decode (encode text) = .ok text := by
  rw [decode, encode_eq, charsOf_encode]
  simp [Except.map]

end WidgetPipeline.Text.Utf8
