import WidgetPipeline.Proofs.Reference.Splitting

/-!
# Replacements without new references

Where references give way to other texts, a reference could come about across the ends of a
replacement. It does not if each replacement is closed: a single reference, or a text that is not
empty and has no at signs and braces. A text with closed replacements is cut into pieces replacement
by replacement (`pieces_flatMap`).
-/

namespace WidgetPipeline.Reference

/-- The text is not empty, and no part of a reference could be read in it. -/
structure Inert (text : List Char) : Prop where
  ne_nil : text ≠ []
  plain : ∀ c ∈ text, c ≠ '@' ∧ c ≠ '{' ∧ c ≠ '}'

instance (text : List Char) : Decidable (Inert text) :=
  decidable_of_iff (text ≠ [] ∧ text.all fun c => c ≠ '@' ∧ c ≠ '{' ∧ c ≠ '}')
    ⟨fun h => ⟨h.1, by simpa using h.2⟩, fun h => ⟨h.ne_nil, by simpa using h.plain⟩⟩

/-- A text that no reference overlaps, wherever it stands. -/
inductive Closed : List Char → Prop
  | inert {text : List Char} (inert : Inert text) : Closed text
  | expression {inner : List Char} (isInner : IsInner inner) : Closed (expression inner)

variable {cs text inner : List Char}

/-! ## Pieces of a text -/

@[simp] theorem pieces_nil : pieces [] = [] := by
  rw [pieces]

theorem pieces_plain {c : Char} (h : ∀ inside, c = '@' → cs = '{' :: inside → False) :
    pieces (c :: cs) = .plain c :: pieces cs := by
  rw [pieces]
  exact h

theorem pieces_single (c : Char) : pieces [c] = [.plain c] := by
  rw [pieces_plain (by simp), pieces_nil]

theorem pieces_expression (h : IsInner inner) (cs : List Char) :
    pieces (expression inner ++ cs) = .reference inner :: pieces cs := by
  have hread : readInner? (inner ++ '}' :: cs) = some (inner, cs) :=
    readInner?_eq_some_iff.2 ⟨h, rfl⟩
  have htext : expression inner ++ cs = '@' :: '{' :: (inner ++ '}' :: cs) := by simp [expression]
  rw [htext, pieces]
  split
  · rename_i heq
    obtain ⟨rfl, rfl⟩ : inner = _ ∧ cs = _ := by simpa [hread] using heq
    rfl
  · rename_i heq
    simp [hread] at heq

/-- Where no reference is read behind an at sign, the at sign stands for itself. -/
theorem pieces_at (h : readInner? cs = none) :
    pieces ('@' :: '{' :: cs) = .plain '@' :: pieces ('{' :: cs) := by
  rw [pieces]
  split
  · rename_i heq
    simp [h] at heq
  · rfl

theorem pieces_append_of_not_mem (h : '@' ∉ text) (cs : List Char) :
    pieces (text ++ cs) = text.map .plain ++ pieces cs := by
  induction text with
  | nil => rfl
  | cons c text ih =>
    simp only [List.mem_cons, not_or] at h
    rw [List.cons_append, pieces_plain fun _ hc _ => h.1 hc.symm, ih h.2]
    rfl

/-- Behind an opening brace no reference is read if it is closed at once or not at all. -/
theorem readInner?_eq_none_iff : readInner? cs = none ↔ cs.head? = some '}' ∨ '}' ∉ cs := by
  constructor
  · intro h
    by_cases hmem : '}' ∈ cs
    · left
      obtain ⟨inner, rest, rfl, hinner⟩ := List.eq_append_cons_of_mem hmem
      cases inner with
      | nil => rfl
      | cons c inner =>
        have hread : readInner? (c :: inner ++ '}' :: rest) = some (c :: inner, rest) :=
          readInner?_eq_some_iff.2 ⟨⟨List.cons_ne_nil c inner, hinner⟩, rfl⟩
        rw [hread] at h
        contradiction
    · exact .inr hmem
  · intro h
    rw [Option.eq_none_iff_forall_ne_some]
    rintro ⟨inner, rest⟩ hread
    obtain ⟨⟨hne, hbrace⟩, rfl⟩ := readInner?_eq_some_iff.1 hread
    obtain ⟨c, inner, rfl⟩ := List.exists_cons_of_ne_nil hne
    rcases h with h | h
    · obtain rfl : c = '}' := by simpa using h
      exact hbrace List.mem_cons_self
    · simp at h

/-- Without a closing brace there is no reference. -/
theorem pieces_of_not_mem (h : '}' ∉ cs) : pieces cs = cs.map .plain := by
  fun_induction pieces cs with
  | case1 => rfl
  | case2 inside inner rest hread =>
    simp [← readInner?_eq_some hread] at h
  | case3 inside hread ih => simp [ih (by simpa using h)]
  | case4 c cs hne ih =>
    simp only [List.mem_cons, not_or] at h
    rw [ih h.2]
    rfl

theorem Inert.not_mem (h : Inert text) : '@' ∉ text := fun hmem => (h.plain '@' hmem).1 rfl

theorem Inert.pieces_eq (h : Inert text) : pieces text = text.map .plain := by
  have happend := pieces_append_of_not_mem h.not_mem []
  simpa using happend

theorem IsInner.pieces_eq (h : IsInner inner) : pieces (expression inner) = [.reference inner] := by
  have happend := pieces_expression h []
  simpa using happend

namespace Closed

theorem pieces_append (h : Closed text) (cs : List Char) :
    pieces (text ++ cs) = pieces text ++ pieces cs := by
  cases h with
  | inert inert => rw [pieces_append_of_not_mem inert.not_mem, inert.pieces_eq]
  | expression isInner => rw [pieces_expression isInner, isInner.pieces_eq, List.singleton_append]

theorem exists_cons (h : Closed text) : ∃ c rest, text = c :: rest ∧ c ≠ '{' := by
  cases h with
  | inert inert =>
    obtain ⟨c, rest, rfl⟩ := List.exists_cons_of_ne_nil inert.ne_nil
    exact ⟨c, rest, rfl, (inert.plain c List.mem_cons_self).2.1⟩
  | expression => exact ⟨'@', _, rfl, by decide⟩

end Closed

/-! ## Replacements -/

variable {f : Piece → List Char}

theorem head?_flatMap (plain : ∀ c, f (.plain c) = [c])
    (closed : ∀ inner, .reference inner ∈ pieces cs → Closed (f (.reference inner)))
    (h : ((pieces cs).flatMap f).head? = some '{') : cs.head? = some '{' := by
  revert h closed
  fun_cases pieces cs with
  | case1 => simp
  | case2 inside inner rest hread =>
    intro closed hhead
    obtain ⟨c, text, htext, hc⟩ := (closed inner List.mem_cons_self).exists_cons
    simp [htext, hc] at hhead
  | case3 inside hread => simp [plain]
  | case4 c cs hne => simp [plain]

/-- Replacements do not complete what could not be read as a reference. -/
theorem readInner?_flatMap (plain : ∀ c, f (.plain c) = [c]) (h : readInner? cs = none) :
    readInner? ((pieces cs).flatMap f) = none := by
  rcases readInner?_eq_none_iff.1 h with hclose | hnone
  · cases cs with
    | nil => simp at hclose
    | cons c cs =>
      obtain rfl : c = '}' := by simpa using hclose
      rw [pieces_plain (by simp), List.flatMap_cons, plain]
      exact readInner?_eq_none_iff.2 (.inl rfl)
  · have hself : (pieces cs).flatMap f = cs := by
      simp [pieces_of_not_mem hnone, List.flatMap_map, plain]
    rw [hself, h]

/-- A text with closed replacements is cut into pieces replacement by replacement. -/
theorem pieces_flatMap (plain : ∀ c, f (.plain c) = [c])
    (closed : ∀ inner, .reference inner ∈ pieces cs → Closed (f (.reference inner))) :
    pieces ((pieces cs).flatMap f) = (pieces cs).flatMap fun piece => pieces (f piece) := by
  fun_induction pieces cs with
  | case1 => simp
  | case2 inside inner rest hread ih =>
    have hclosed := closed inner List.mem_cons_self
    have hrest := ih fun other hmem => closed other (List.mem_cons_of_mem _ hmem)
    rw [List.flatMap_cons, List.flatMap_cons, hclosed.pieces_append, hrest]
  | case3 inside hread ih =>
    have hrest := ih fun other hmem => closed other (List.mem_cons_of_mem _ hmem)
    have hopen : (pieces ('{' :: inside)).flatMap f = '{' :: (pieces inside).flatMap f := by
      rw [pieces_plain (by simp), List.flatMap_cons, plain]
      rfl
    rw [List.flatMap_cons, List.flatMap_cons, plain, pieces_single, ← hrest, hopen]
    exact pieces_at (readInner?_flatMap plain hread)
  | case4 c cs hne ih =>
    have hclosed : ∀ inner, .reference inner ∈ pieces cs → Closed (f (.reference inner)) :=
      fun other hmem => closed other (List.mem_cons_of_mem _ hmem)
    have hne' : ∀ inside, c = '@' → (pieces cs).flatMap f = '{' :: inside → False := by
      intro inside hc hopen
      have hhead := head?_flatMap plain hclosed (by rw [hopen]; rfl)
      obtain ⟨inside', rfl⟩ := List.head?_eq_some_iff.1 hhead
      exact hne inside' hc rfl
    rw [List.flatMap_cons, List.flatMap_cons, plain, pieces_single, ← ih hclosed]
    exact pieces_plain hne'

end WidgetPipeline.Reference
