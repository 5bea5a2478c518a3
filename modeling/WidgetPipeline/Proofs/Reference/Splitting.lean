import WidgetPipeline.Reference.Basic

/-!
# Splitting a text at its references

What a reference is and which one comes next is said here without the functions that read
references: a text splits at the leftmost place where a reference stands, and again behind it
(`Splits`). There is one way to do so (`Splits.unique`), nothing is lost (`Splits.eq_joined`), and
cutting a text into pieces goes that way (`exists_splits`), so that the parts of a text can be
computed (`splits_iff`).
-/

namespace WidgetPipeline.Reference

/-- A text that the braces of a reference can hold. -/
def IsInner (inner : List Char) : Prop := inner ≠ [] ∧ '}' ∉ inner

/-- A reference stands at the front of the text. -/
def AtFront (cs : List Char) : Prop := ∃ inner rest, IsInner inner ∧ cs = expression inner ++ rest

/-- No reference starts within the first characters of a text. -/
def NoneWithin (length : Nat) (cs : List Char) : Prop :=
  ∀ front behind, cs = front ++ behind → front.length < length → ¬ AtFront behind

/-- A reference, and the text between it and the reference before it. -/
@[ext]
structure Part where
  before : List Char
  inner : List Char
deriving DecidableEq, Repr

/-- The characters of the part. -/
def Part.text (part : Part) : List Char := part.before ++ expression part.inner

/-- The parts of a text and what is left behind the last of them. Each part ends with the leftmost
reference of the text that starts with it. -/
inductive Splits : List Char → List Part → List Char → Prop
  | last {cs : List Char} (plain : NoneWithin (cs.length + 1) cs) : Splits cs [] cs
  | part {cs rest last : List Char} {part : Part} {parts : List Part}
      (cut : cs = part.text ++ rest) (inner : IsInner part.inner)
      (leftmost : NoneWithin part.before.length cs) (splits : Splits rest parts last) :
      Splits cs (part :: parts) last

/-! ## One way to split -/

variable {cs rest rest' inner inner' last last' : List Char} {part : Part}
  {parts parts' : List Part}

theorem splitAtBrace_append (h : '}' ∉ inner) (rest : List Char) :
    splitAtBrace (inner ++ '}' :: rest) = some (inner, rest) := by
  induction inner with
  | nil => simp [splitAtBrace]
  | cons c inner ih =>
    obtain ⟨hc, htail⟩ : '}' ≠ c ∧ '}' ∉ inner := by simpa [not_or] using h
    simp [splitAtBrace, Ne.symm hc, ih htail]

theorem not_mem_of_splitAtBrace (h : splitAtBrace cs = some (inner, rest)) : '}' ∉ inner := by
  fun_induction splitAtBrace cs generalizing inner with
  | case1 => simp at h
  | case2 cs =>
    obtain ⟨rfl, -⟩ : [] = inner ∧ cs = rest := by simpa using h
    simp
  | case3 c cs hc ih =>
    obtain ⟨⟨tail, rest'⟩, htail, hpair⟩ := Option.map_eq_some_iff.1 h
    obtain ⟨rfl, rfl⟩ : c :: tail = inner ∧ rest' = rest := by simpa using hpair
    simp [Ne.symm hc, ih htail]

/-- Behind an opening brace a reference is read if and only if one stands there. -/
theorem readInner?_eq_some_iff :
    readInner? cs = some (inner, rest) ↔ IsInner inner ∧ cs = inner ++ '}' :: rest := by
  constructor
  · intro h
    obtain ⟨hsplit, hne⟩ := Option.filter_eq_some_iff.1 h
    exact ⟨⟨by simpa using hne, not_mem_of_splitAtBrace hsplit⟩, (readInner?_eq_some h).symm⟩
  · rintro ⟨⟨hne, hbrace⟩, rfl⟩
    simp [readInner?, splitAtBrace_append hbrace, hne]

/-- Two references at the front of one text are the same. -/
theorem expression_append_inj (h : IsInner inner) (h' : IsInner inner')
    (heq : expression inner ++ rest = expression inner' ++ rest') :
    inner = inner' ∧ rest = rest' := by
  have htail : inner ++ '}' :: rest = inner' ++ '}' :: rest' := by simpa [expression] using heq
  have hread : readInner? (inner ++ '}' :: rest) = some (inner, rest) :=
    readInner?_eq_some_iff.2 ⟨h, rfl⟩
  have hread' : readInner? (inner ++ '}' :: rest) = some (inner', rest') :=
    readInner?_eq_some_iff.2 ⟨h', htail⟩
  simpa [hread] using hread'

/-- Where a part can be cut off, its reference starts behind the characters that start none. -/
theorem NoneWithin.le_length {n : Nat} (h : NoneWithin n cs) (cut : cs = part.text ++ rest)
    (inner : IsInner part.inner) : n ≤ part.before.length := by
  rw [← Nat.not_lt]
  intro hlt
  have hfront : AtFront (expression part.inner ++ rest) := ⟨part.inner, rest, inner, rfl⟩
  exact h part.before _ (by rw [cut, Part.text, List.append_assoc]) hlt hfront

theorem NoneWithin.not_part (plain : NoneWithin (cs.length + 1) cs) (cut : cs = part.text ++ rest)
    (inner : IsInner part.inner) : False := by
  have hle := plain.le_length cut inner
  simp only [cut, Part.text, List.length_append] at hle
  omega

theorem Splits.unique (h : Splits cs parts last) (h' : Splits cs parts' last') :
    parts = parts' ∧ last = last' := by
  induction h generalizing parts' last' with
  | last plain =>
    cases h' with
    | last => exact ⟨rfl, rfl⟩
    | part cut inner => exact absurd (plain.not_part cut inner) id
  | @part cs rest last part parts cut inner leftmost _ ih =>
    cases h' with
    | last plain => exact absurd (plain.not_part cut inner) id
    | @part _ rest' _ part' _ cut' inner' leftmost' splits' =>
      have hlength : part.before.length = part'.before.length :=
        Nat.le_antisymm (leftmost.le_length cut' inner') (leftmost'.le_length cut inner)
      have hcut : part.before ++ (expression part.inner ++ rest) =
          part'.before ++ (expression part'.inner ++ rest') := by
        simpa [Part.text] using cut.symm.trans cut'
      obtain ⟨hbefore, hbehind⟩ := List.append_inj hcut hlength
      obtain ⟨hinner, rfl⟩ := expression_append_inj inner inner' hbehind
      obtain ⟨rfl, rfl⟩ := ih splits'
      obtain rfl : part = part' := Part.ext hbefore hinner
      exact ⟨rfl, rfl⟩

/-- The parts and what is left behind them make up the text. -/
theorem Splits.eq_joined (h : Splits cs parts last) : cs = parts.flatMap Part.text ++ last := by
  induction h with
  | last => rfl
  | part cut _ _ _ ih =>
    rw [cut, List.flatMap_cons, List.append_assoc, ← ih]

/-! ## Cutting into pieces -/

/-- The pieces of a text that is split in parts. -/
def piecesOf (parts : List Part) (last : List Char) : List Piece :=
  parts.flatMap (fun part => part.before.map Piece.plain ++ [.reference part.inner]) ++
    last.map Piece.plain

theorem noneWithin_zero : NoneWithin 0 cs := fun _ _ _ hlt => absurd hlt (Nat.not_lt_zero _)

theorem NoneWithin.cons {n : Nat} {c : Char} (hfront : ¬ AtFront (c :: cs)) (h : NoneWithin n cs) :
    NoneWithin (n + 1) (c :: cs) := by
  intro front behind hcut hlt
  cases front with
  | nil =>
    obtain rfl : c :: cs = behind := hcut
    exact hfront
  | cons d front =>
    obtain ⟨rfl, htail⟩ := List.cons.inj hcut
    exact h front behind htail (by simpa using hlt)

/-- A character in front of which no reference stands goes to the first part. -/
theorem Splits.cons {c : Char} (hfront : ¬ AtFront (c :: cs)) (h : Splits cs parts last) :
    ∃ parts' last', Splits (c :: cs) parts' last' ∧
      piecesOf parts' last' = .plain c :: piecesOf parts last := by
  cases h with
  | last plain => exact ⟨[], c :: cs, .last (plain.cons hfront), rfl⟩
  | @part _ rest _ part parts cut inner leftmost splits =>
    refine ⟨⟨c :: part.before, part.inner⟩ :: parts, last, ?_, rfl⟩
    exact .part (by simp [cut, Part.text]) inner (leftmost.cons hfront) splits

/-- A reference stands only behind an at sign and an opening brace. -/
theorem not_atFront {c : Char} (h : ∀ inside, c = '@' → cs = '{' :: inside → False) :
    ¬ AtFront (c :: cs) := by
  rintro ⟨inner, rest, _, hcut⟩
  obtain ⟨hc, hcs⟩ : c = '@' ∧ cs = '{' :: (inner ++ '}' :: rest) := by
    simpa [expression] using hcut
  exact h _ hc hcs

/-- Every text splits, and cutting it into pieces finds the parts. -/
theorem exists_splits (cs : List Char) :
    ∃ parts last, Splits cs parts last ∧ pieces cs = piecesOf parts last := by
  fun_induction pieces cs with
  | case1 =>
    refine ⟨[], [], .last ?_, rfl⟩
    intro front behind hcut _
    obtain ⟨rfl, rfl⟩ : front = [] ∧ behind = [] := by simpa [eq_comm] using hcut
    rintro ⟨inner, rest, _, hempty⟩
    simp [expression] at hempty
  | case2 inside inner rest h ih =>
    obtain ⟨parts, last, splits, hpieces⟩ := ih
    obtain ⟨hinner, hinside⟩ := readInner?_eq_some_iff.1 h
    refine ⟨⟨[], inner⟩ :: parts, last, ?_, by rw [hpieces]; rfl⟩
    exact .part (by simp [Part.text, expression, hinside]) hinner noneWithin_zero splits
  | case3 inside h ih =>
    obtain ⟨parts, last, splits, hpieces⟩ := ih
    have hfront : ¬ AtFront ('@' :: '{' :: inside) := by
      rintro ⟨inner, rest, hinner, hcut⟩
      have hinside : inside = inner ++ '}' :: rest := by simpa [expression] using hcut
      simp [readInner?_eq_some_iff.2 ⟨hinner, hinside⟩] at h
    obtain ⟨parts', last', splits', hpieces'⟩ := splits.cons hfront
    exact ⟨parts', last', splits', by rw [hpieces', hpieces]⟩
  | case4 c cs hne ih =>
    obtain ⟨parts, last, splits, hpieces⟩ := ih
    have hfront : ¬ AtFront (c :: cs) := not_atFront hne
    obtain ⟨parts', last', splits', hpieces'⟩ := splits.cons hfront
    exact ⟨parts', last', splits', by rw [hpieces', hpieces]⟩

theorem Splits.pieces_eq (h : Splits cs parts last) : pieces cs = piecesOf parts last := by
  obtain ⟨parts', last', splits, hpieces⟩ := exists_splits cs
  obtain ⟨rfl, rfl⟩ := h.unique splits
  exact hpieces

/-! ## Finding the parts -/

/-- Collects pieces to parts, and what is left behind the last reference. -/
def partsOf : List Piece → List Part × List Char
  | [] => ([], [])
  | .plain c :: pieces =>
    match partsOf pieces with
    | ([], last) => ([], c :: last)
    | (part :: parts, last) => (⟨c :: part.before, part.inner⟩ :: parts, last)
  | .reference inner :: pieces =>
    let (parts, last) := partsOf pieces
    (⟨[], inner⟩ :: parts, last)

theorem partsOf_last (last : List Char) : partsOf (last.map .plain) = ([], last) := by
  induction last with
  | nil => rfl
  | cons c last ih => simp [partsOf, ih]

theorem partsOf_part (before inner : List Char) (pieces : List Piece) :
    partsOf (before.map .plain ++ .reference inner :: pieces) =
      (⟨before, inner⟩ :: (partsOf pieces).1, (partsOf pieces).2) := by
  induction before with
  | nil => rfl
  | cons c before ih => simp [partsOf, ih]

theorem partsOf_piecesOf (parts : List Part) (last : List Char) :
    partsOf (piecesOf parts last) = (parts, last) := by
  induction parts with
  | nil => exact partsOf_last last
  | cons part parts ih =>
    have hfirst : piecesOf (part :: parts) last =
        part.before.map .plain ++ .reference part.inner :: piecesOf parts last := by
      simp [piecesOf]
    rw [hfirst, partsOf_part, ih]

/-- The parts of a text are those that its pieces are collected to. -/
theorem splits_iff : Splits cs parts last ↔ partsOf (pieces cs) = (parts, last) := by
  obtain ⟨parts', last', splits', hpieces⟩ := exists_splits cs
  rw [hpieces, partsOf_piecesOf, Prod.mk.injEq]
  constructor
  · intro splits
    exact splits'.unique splits
  · rintro ⟨rfl, rfl⟩
    exact splits'

instance (cs : List Char) (parts : List Part) (last : List Char) :
    Decidable (Splits cs parts last) :=
  decidable_of_iff _ splits_iff.symm

end WidgetPipeline.Reference
