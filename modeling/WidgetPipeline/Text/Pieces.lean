import WidgetPipeline.Text.CharClass

/-!
Cutting text at a separator, joining the pieces again, and taking white space off the ends. Every
cut is the inverse of a join: `intercalate_pieces` says that no character is lost or invented.
-/

namespace WidgetPipeline.Text

/-- The pieces between the separators. There is one piece more than there are separators. -/
def pieces (separator : Char) : List Char → List (List Char)
  | [] => [[]]
  | c :: cs =>
    if c = separator then [] :: pieces separator cs
    else
      match pieces separator cs with
      | [] => [[c]]
      | piece :: rest => (c :: piece) :: rest

def lines (cs : List Char) : List (List Char) := pieces '\n' cs

theorem pieces_ne_nil (separator : Char) (cs : List Char) : pieces separator cs ≠ [] := by
  cases cs with
  | nil => simp [pieces]
  | cons c cs =>
    unfold pieces
    split
    · simp
    · split <;> simp

theorem intercalate_pieces (separator : Char) (cs : List Char) :
    [separator].intercalate (pieces separator cs) = cs := by
  induction cs with
  | nil => simp [pieces, List.intercalate]
  | cons c cs ih =>
    have hne := pieces_ne_nil separator cs
    unfold pieces
    split
    · rename_i h
      cases hp : pieces separator cs with
      | nil => exact absurd hp hne
      | cons piece rest => simp [hp, List.intercalate] at ih ⊢; exact ⟨h.symm, ih⟩
    · cases hp : pieces separator cs with
      | nil => exact absurd hp hne
      | cons piece rest =>
        cases rest <;> simp_all [List.intercalate]

/-- The text without the white space in front of it. -/
def trimStart (cs : List Char) : List Char := cs.dropWhile isBlank

/-- The text without the white space behind it. -/
def trimEnd (cs : List Char) : List Char := (cs.reverse.dropWhile isBlank).reverse

/-- The text without the white space around it. -/
def trim (cs : List Char) : List Char := trimEnd (trimStart cs)

/-- The maximal runs of characters that are not white space. -/
def blankSeparated (cs : List Char) : List (List Char) :=
  go [] cs
where
  /-- Collects the run read so far, last character first. -/
  go (run : List Char) : List Char → List (List Char)
    | [] => if run.isEmpty then [] else [run.reverse]
    | c :: cs =>
      if isBlank c then if run.isEmpty then go [] cs else run.reverse :: go [] cs
      else go (c :: run) cs

/-- The number of bytes that the text takes in UTF-8. -/
def byteLength : List Char → Nat
  | [] => 0
  | c :: cs => c.utf8Size + byteLength cs

def lineBreaks (cs : List Char) : Nat := cs.count '\n'

@[simp] theorem byteLength_nil : byteLength [] = 0 := rfl

@[simp] theorem byteLength_cons (c : Char) (cs : List Char) :
    byteLength (c :: cs) = c.utf8Size + byteLength cs := rfl

@[simp] theorem byteLength_append (cs ds : List Char) :
    byteLength (cs ++ ds) = byteLength cs + byteLength ds := by
  induction cs with
  | nil => simp
  | cons c cs ih => simp [ih, Nat.add_assoc]

@[simp] theorem lineBreaks_append (cs ds : List Char) :
    lineBreaks (cs ++ ds) = lineBreaks cs + lineBreaks ds := by
  simp [lineBreaks]

end WidgetPipeline.Text
