import WidgetPipeline.Proofs.Script.Reading
import WidgetPipeline.Script.Scan

/-!
# Source text as a tree of tokens

Script source as its author writes it: single tokens, groups in braces, and template literals with
code between their texts. A tree has a text (`Code.text`) and the comments that its author put in it
(`Code.comments`), both read off the tree alone. `Code.Fits` says where a token may stand: which
characters it is made of, whether an operand is expected in front of it, and what may follow it.
-/

namespace WidgetPipeline.Script

/-- A character that stands for itself, or a backslash and the character it protects. -/
inductive Piece where
  | plain (c : Char)
  | escaped (c : Char)
deriving DecidableEq, Repr

def Piece.text : Piece → List Char
  | .plain c => [c]
  | .escaped c => ['\\', c]

/-- A part of the body of a regular expression literal. -/
inductive RegexPart where
  | piece (piece : Piece)
  | characterClass (members : List Piece)
deriving DecidableEq, Repr

def RegexPart.text : RegexPart → List Char
  | .piece p => p.text
  | .characterClass members => '[' :: (members.flatMap Piece.text ++ [']'])

/-- A token without tokens inside it. -/
inductive Token where
  | blank (c : Char)
  | word (first : Char) (rest : List Char)
  | punctuation (c : Char)
  | division
  | quoted (mark : Char) (body : List Piece)
  /-- A quotation mark that nothing closes before the end of its line. -/
  | strayQuote (mark : Char) (body : List Char)
  | regex (body : List RegexPart) (flags : List Char)
  | lineComment (body : List Char)
  | blockComment (inner : List Char)
deriving DecidableEq, Repr

mutual

/-- Tokens one behind the other. -/
inductive Code where
  | nil
  | token (head : Token) (tail : Code)
  /-- Code in braces. -/
  | group (inside tail : Code)
  | template (inside : Template) (tail : Code)

/-- The inside of a template literal: text, and code in braces behind a dollar sign. -/
inductive Template where
  | nil
  | piece (head : Piece) (tail : Template)
  | interpolation (inside : Code) (tail : Template)

end

/-! ## Text and comments -/

def Token.text : Token → List Char
  | .blank c => [c]
  | .word first rest => first :: rest
  | .punctuation c => [c]
  | .division => ['/']
  | .quoted mark body => mark :: (body.flatMap Piece.text ++ [mark])
  | .strayQuote mark body => mark :: body
  | .regex body flags => '/' :: (body.flatMap RegexPart.text ++ '/' :: flags)
  | .lineComment body => '/' :: '/' :: body
  | .blockComment inner => '/' :: '*' :: (inner ++ ['*', '/'])

mutual

def Code.text : Code → List Char
  | .nil => []
  | .token head tail => head.text ++ tail.text
  | .group inside tail => '{' :: (inside.text ++ '}' :: tail.text)
  | .template inside tail => '\x60' :: (inside.text ++ '\x60' :: tail.text)

def Template.text : Template → List Char
  | .nil => []
  | .piece head tail => head.text ++ tail.text
  | .interpolation inside tail => '$' :: '{' :: (inside.text ++ '}' :: tail.text)

end

/-- The comment that a token at this place is, under its offset. -/
def Token.comments (place : Position) : Token → List (Nat × Comment)
  | .lineComment body =>
    [(place.offset, ⟨String.ofList (Text.trim body), place.line, place.line⟩)]
  | .blockComment inner =>
    [(place.offset, ⟨String.ofList (blockContent inner), place.line,
      place.line + Text.lineBreaks inner⟩)]
  | _ => []

mutual

/-- The comments of code that starts at this place, in the order in which they are written. -/
def Code.comments (place : Position) : Code → List (Nat × Comment)
  | .nil => []
  | .token head tail => head.comments place ++ tail.comments (place.advance head.text)
  | .group inside tail =>
    inside.comments (place.advance ['{']) ++
      tail.comments (place.advance ('{' :: (inside.text ++ ['}'])))
  | .template inside tail =>
    inside.comments (place.advance ['\x60']) ++
      tail.comments (place.advance ('\x60' :: (inside.text ++ ['\x60'])))

def Template.comments (place : Position) : Template → List (Nat × Comment)
  | .nil => []
  | .piece head tail => tail.comments (place.advance head.text)
  | .interpolation inside tail =>
    inside.comments (place.advance ['$', '{']) ++
      tail.comments (place.advance ('$' :: '{' :: (inside.text ++ ['}'])))

end

/-! ## Where tokens may stand -/

/-- Whether a slash behind the token would open a regular expression literal. -/
def Token.operandExpectedAfter (operandExpected : Bool) : Token → Bool
  | .blank _ => operandExpected
  | .word first rest => operandKeywords.contains (String.ofList (first :: rest))
  | .punctuation c => operandSymbols.contains c
  | .division => false
  | .quoted _ _ => false
  | .strayQuote _ _ => operandExpected
  | .regex _ _ => false
  | .lineComment _ => operandExpected
  | .blockComment _ => operandExpected

def Code.operandExpectedAfter (operandExpected : Bool) : Code → Bool
  | .nil => operandExpected
  | .token head tail => tail.operandExpectedAfter (head.operandExpectedAfter operandExpected)
  | .group _ tail => tail.operandExpectedAfter false
  | .template _ tail => tail.operandExpectedAfter false

/-- No word goes on, and none starts, in the text ahead. -/
def NoWordAhead (ahead : List Char) : Prop := ∀ c ∈ ahead.head?, isIdentPart c = false

def IsQuotationMark (c : Char) : Prop := c = '"' ∨ c = '\''

def Piece.FitsQuoted (mark : Char) : Piece → Prop
  | .plain c => c ≠ mark ∧ c ≠ '\\' ∧ c ≠ '\n'
  | .escaped _ => True

def Piece.FitsClass : Piece → Prop
  | .plain c => c ≠ ']' ∧ c ≠ '\\' ∧ c ≠ '\n'
  | .escaped c => c ≠ '\n'

def RegexPart.Fits : RegexPart → Prop
  | .piece (.plain c) => c ≠ '/' ∧ c ≠ '[' ∧ c ≠ '\\' ∧ c ≠ '\n'
  | .piece (.escaped c) => c ≠ '\n'
  | .characterClass members => ∀ member ∈ members, member.FitsClass

/-- The token is made of the characters of its kind and may stand in front of the text `ahead`. -/
def Token.Fits (operandExpected : Bool) (ahead : List Char) : Token → Prop
  | .blank c => Text.isBlank c = true
  | .word first rest => (∀ c ∈ first :: rest, isIdentPart c = true) ∧ NoWordAhead ahead
  | .punctuation c =>
    Text.isBlank c = false ∧ isIdentPart c = false ∧ c ∉ ['/', '"', '\'', '\x60', '{', '}']
  | .division => operandExpected = false ∧ ahead.head? ≠ some '/' ∧ ahead.head? ≠ some '*'
  | .quoted mark body => IsQuotationMark mark ∧ ∀ piece ∈ body, piece.FitsQuoted mark
  | .strayQuote mark body =>
    IsQuotationMark mark ∧ (∀ c ∈ body, c ≠ mark ∧ c ≠ '\\' ∧ c ≠ '\n') ∧ AtLineEnd ahead
  | .regex body flags =>
    operandExpected = true ∧ body ≠ [] ∧ body.head? ≠ some (.piece (.plain '*')) ∧
      (∀ part ∈ body, part.Fits) ∧ (∀ c ∈ flags, isIdentPart c = true) ∧ NoWordAhead ahead
  | .lineComment body => '\n' ∉ body ∧ AtLineEnd ahead
  | .blockComment inner => ∀ earlier later, inner ≠ earlier ++ '*' :: '/' :: later

/-- The character is text of a template literal in front of the text `ahead`. -/
def Piece.FitsTemplate (ahead : List Char) : Piece → Prop
  | .plain c => c ≠ '\x60' ∧ c ≠ '\\' ∧ (c = '$' → ahead.head? ≠ some '{')
  | .escaped _ => True

mutual

/-- Every token of the code may stand where it stands, with the text `ahead` behind the code. -/
def Code.Fits (operandExpected : Bool) (ahead : List Char) : Code → Prop
  | .nil => True
  | .token head tail =>
    head.Fits operandExpected (tail.text ++ ahead) ∧
      tail.Fits (head.operandExpectedAfter operandExpected) ahead
  | .group inside tail => inside.Fits true ('}' :: (tail.text ++ ahead)) ∧ tail.Fits false ahead
  | .template inside tail => inside.Fits ('\x60' :: (tail.text ++ ahead)) ∧ tail.Fits false ahead

def Template.Fits (ahead : List Char) : Template → Prop
  | .nil => True
  | .piece head tail => head.FitsTemplate (tail.text ++ ahead) ∧ tail.Fits ahead
  | .interpolation inside tail => inside.Fits true ('}' :: (tail.text ++ ahead)) ∧ tail.Fits ahead

end

/-! ## The conditions can be computed -/

-- What holds of the characters of a text is decided along the text, not for all characters.
instance decidableForallMem (p : Char → Prop) [DecidablePred p] (cs : List Char) :
    Decidable (∀ c ∈ cs, p c) :=
  List.decidableBAll p cs

instance (ahead : List Char) : Decidable (NoWordAhead ahead) :=
  match ahead with
  | [] => .isTrue (by simp [NoWordAhead])
  | c :: _ => decidable_of_iff (isIdentPart c = false) (by simp [NoWordAhead])

instance (c : Char) : Decidable (IsQuotationMark c) := inferInstanceAs (Decidable (_ ∨ _))

instance (mark : Char) (piece : Piece) : Decidable (piece.FitsQuoted mark) :=
  match piece with
  | .plain _ => inferInstanceAs (Decidable (_ ∧ _))
  | .escaped _ => inferInstanceAs (Decidable True)

instance (piece : Piece) : Decidable piece.FitsClass :=
  match piece with
  | .plain _ => inferInstanceAs (Decidable (_ ∧ _))
  | .escaped _ => inferInstanceAs (Decidable (_ ≠ _))

instance (part : RegexPart) : Decidable part.Fits :=
  match part with
  | .piece (.plain _) => inferInstanceAs (Decidable (_ ∧ _))
  | .piece (.escaped _) => inferInstanceAs (Decidable (_ ≠ _))
  | .characterClass members => inferInstanceAs (Decidable (∀ member ∈ members, _))

instance (ahead : List Char) (piece : Piece) : Decidable (piece.FitsTemplate ahead) :=
  match piece with
  | .plain _ => inferInstanceAs (Decidable (_ ∧ _))
  | .escaped _ => inferInstanceAs (Decidable True)

instance (operandExpected : Bool) (ahead : List Char) (token : Token) :
    Decidable (token.Fits operandExpected ahead) :=
  match token with
  | .blank _ => inferInstanceAs (Decidable (_ = _))
  | .word _ _ => inferInstanceAs (Decidable (_ ∧ _))
  | .punctuation _ => inferInstanceAs (Decidable (_ ∧ _))
  | .division => inferInstanceAs (Decidable (_ ∧ _))
  | .quoted _ _ => inferInstanceAs (Decidable (_ ∧ _))
  | .strayQuote _ _ => inferInstanceAs (Decidable (_ ∧ _))
  | .regex _ _ => inferInstanceAs (Decidable (_ ∧ _))
  | .lineComment _ => inferInstanceAs (Decidable (_ ∧ _))
  | .blockComment _ => decidable_of_iff _ splitAtBlockEnd_eq_none_iff

mutual

def Code.decidableFits (operandExpected : Bool) (ahead : List Char) :
    (code : Code) → Decidable (code.Fits operandExpected ahead)
  | .nil => .isTrue trivial
  | .token head tail =>
    have := tail.decidableFits (head.operandExpectedAfter operandExpected) ahead
    inferInstanceAs (Decidable (_ ∧ _))
  | .group inside tail =>
    have := inside.decidableFits true ('}' :: (tail.text ++ ahead))
    have := tail.decidableFits false ahead
    inferInstanceAs (Decidable (_ ∧ _))
  | .template inside tail =>
    have := inside.decidableFits ('\x60' :: (tail.text ++ ahead))
    have := tail.decidableFits false ahead
    inferInstanceAs (Decidable (_ ∧ _))

def Template.decidableFits (ahead : List Char) :
    (template : Template) → Decidable (template.Fits ahead)
  | .nil => .isTrue trivial
  | .piece _ tail =>
    have := tail.decidableFits ahead
    inferInstanceAs (Decidable (_ ∧ _))
  | .interpolation inside tail =>
    have := inside.decidableFits true ('}' :: (tail.text ++ ahead))
    have := tail.decidableFits ahead
    inferInstanceAs (Decidable (_ ∧ _))

end

instance (operandExpected : Bool) (ahead : List Char) (code : Code) :
    Decidable (code.Fits operandExpected ahead) :=
  code.decidableFits operandExpected ahead

end WidgetPipeline.Script
