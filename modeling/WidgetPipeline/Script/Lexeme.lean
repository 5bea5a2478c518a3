import WidgetPipeline.Text.Pieces

/-!
Lexemes of script source. A scan for comments needs only as much of the language as decides where a
comment can start, so a lexeme is a comment, a literal, a brace, a word, or one other character.
Main statement: reading a lexeme takes a nonempty run of characters off the front of the text and
leaves the rest as it was (`read?_eq_some`).
-/

namespace WidgetPipeline.Script

inductive Lexeme where
  /-- Two slashes and the text up to the end of the line. -/
  | lineComment (body : List Char)
  /-- The text between the opening and the first closing delimiter. -/
  | blockComment (inner : List Char)
  /-- A regular expression literal, without the slashes around its body. -/
  | regex (body flags : List Char)
  /-- A quotation mark and what follows it, up to the same mark or to the end of the line. -/
  | quoted (mark : Char) (body : List Char) (closed : Bool)
  | openTemplate
  | closeTemplate
  /-- A dollar sign and a brace: an expression starts inside a template literal. -/
  | openInterpolation
  | templateText (c : Char)
  /-- A backslash in a template literal and the character it protects, if one is left. -/
  | templateEscape (escaped : Option Char)
  | openBrace
  | closeBrace
  | word (first : Char) (rest : List Char)
  | blank (c : Char)
  /-- Any other character, and a slash that opens neither a comment nor a literal. -/
  | symbol (c : Char)
deriving DecidableEq, Repr

namespace Lexeme

def text : Lexeme → List Char
  | .lineComment body => '/' :: '/' :: body
  | .blockComment inner => '/' :: '*' :: (inner ++ ['*', '/'])
  | .regex body flags => '/' :: (body ++ '/' :: flags)
  | .quoted mark body closed => mark :: (body ++ if closed then [mark] else [])
  | .openTemplate => ['\x60']
  | .closeTemplate => ['\x60']
  | .openInterpolation => ['$', '{']
  | .templateText c => [c]
  | .templateEscape escaped => '\\' :: escaped.toList
  | .openBrace => ['{']
  | .closeBrace => ['}']
  | .word first rest => first :: rest
  | .blank c => [c]
  | .symbol c => [c]

theorem text_ne_nil (lexeme : Lexeme) : lexeme.text ≠ [] := by
  cases lexeme <;> simp [text]

end Lexeme

def isIdentPart (c : Char) : Bool := Text.isAlphanumeric c || c == '_' || c == '$'

/-- Cuts the text at the first closing delimiter of a block comment: what stands before it and what
follows it. -/
def splitAtBlockEnd : List Char → Option (List Char × List Char)
  | [] => none
  | '*' :: '/' :: rest => some ([], rest)
  | c :: cs => (splitAtBlockEnd cs).map fun (inner, rest) => (c :: inner, rest)

/-- Reads the body of a regular expression literal up to the slash that closes it. A backslash
protects the next character and a bracket hides slashes; a body cannot go past the end of its line. -/
def splitRegexBody (inClass : Bool) : List Char → Option (List Char × List Char)
  | [] => none
  | '\n' :: _ => none
  | ['\\'] => none
  | '\\' :: '\n' :: _ => none
  | '\\' :: c :: cs =>
    (splitRegexBody inClass cs).map fun (body, rest) => ('\\' :: c :: body, rest)
  | '[' :: cs => (splitRegexBody true cs).map fun (body, rest) => ('[' :: body, rest)
  | ']' :: cs => (splitRegexBody false cs).map fun (body, rest) => (']' :: body, rest)
  | c :: cs =>
    if c = '/' ∧ !inClass then some ([], cs)
    else (splitRegexBody inClass cs).map fun (body, rest) => (c :: body, rest)

/-- Reads quoted text up to the closing mark, or up to a line break that no backslash protects: the
text, whether it was closed, and what follows. -/
def splitQuoted (mark : Char) : List Char → List Char × Bool × List Char
  | [] => ([], false, [])
  | '\n' :: cs => ([], false, '\n' :: cs)
  | ['\\'] => (['\\'], false, [])
  | '\\' :: c :: cs =>
    let (body, closed, rest) := splitQuoted mark cs
    ('\\' :: c :: body, closed, rest)
  | c :: cs =>
    if c = mark then ([], true, cs)
    else
      let (body, closed, rest) := splitQuoted mark cs
      (c :: body, closed, rest)

namespace Lexeme

/-- Reads the lexeme at the front of the text `c :: cs` inside a template literal. -/
def readTemplate (c : Char) (cs : List Char) : Lexeme × List Char :=
  match c, cs with
  | '$', '{' :: cs => (.openInterpolation, cs)
  | '\\', c :: cs => (.templateEscape (some c), cs)
  | '\\', [] => (.templateEscape none, [])
  | '\x60', cs => (.closeTemplate, cs)
  | c, cs => (.templateText c, cs)

/-- Reads the lexeme that starts with a slash; `cs` follows the slash. A slash opens a regular
expression literal where an operand is expected and the line holds the slash that closes it. -/
def readSlash? (operandExpected : Bool) (cs : List Char) : Option (Lexeme × List Char) :=
  match cs with
  | '/' :: cs => some (.lineComment (cs.takeWhile (· ≠ '\n')), cs.dropWhile (· ≠ '\n'))
  | '*' :: cs => (splitAtBlockEnd cs).map fun (inner, rest) => (.blockComment inner, rest)
  | cs =>
    match operandExpected, splitRegexBody false cs with
    | true, some (body, rest) =>
      some (.regex body (rest.takeWhile isIdentPart), rest.dropWhile isIdentPart)
    | _, _ => some (.symbol '/', cs)

/-- Reads the lexeme at the front of the text `c :: cs` outside template literals. -/
def readCode? (operandExpected : Bool) (c : Char) (cs : List Char) : Option (Lexeme × List Char) :=
  if c = '/' then readSlash? operandExpected cs
  else if c = '"' ∨ c = '\'' then
    let (body, closed, rest) := splitQuoted c cs
    some (.quoted c body closed, rest)
  else if c = '\x60' then some (.openTemplate, cs)
  else if c = '{' then some (.openBrace, cs)
  else if c = '}' then some (.closeBrace, cs)
  else if isIdentPart c then
    some (.word c (cs.takeWhile isIdentPart), cs.dropWhile isIdentPart)
  else if Text.isBlank c then some (.blank c, cs)
  else some (.symbol c, cs)

end Lexeme

/-! ### Nothing is lost -/

theorem splitAtBlockEnd_eq_some {cs inner rest : List Char}
    (h : splitAtBlockEnd cs = some (inner, rest)) : inner ++ '*' :: '/' :: rest = cs := by
  fun_induction splitAtBlockEnd cs generalizing inner <;> grind [Option.map_eq_some_iff]

theorem splitRegexBody_eq_some {inClass : Bool} {cs body rest : List Char}
    (h : splitRegexBody inClass cs = some (body, rest)) : body ++ '/' :: rest = cs := by
  fun_induction splitRegexBody inClass cs generalizing body <;> grind [Option.map_eq_some_iff]

theorem splitQuoted_append (mark : Char) (cs : List Char) :
    (splitQuoted mark cs).1 ++ (if (splitQuoted mark cs).2.1 then [mark] else []) ++
      (splitQuoted mark cs).2.2 = cs := by
  fun_induction splitQuoted mark cs <;> grind

namespace Lexeme

theorem readTemplate_append (c : Char) (cs : List Char) :
    (readTemplate c cs).1.text ++ (readTemplate c cs).2 = c :: cs := by
  unfold readTemplate
  split <;> simp [text]

theorem readSlash?_eq_some {operandExpected : Bool} {cs rest : List Char} {lexeme : Lexeme}
    (h : readSlash? operandExpected cs = some (lexeme, rest)) : lexeme.text ++ rest = '/' :: cs := by
  unfold readSlash? at h
  split at h
  · simp only [Option.some.injEq, Prod.mk.injEq] at h
    simp [← h.1, ← h.2, text]
  · simp only [Option.map_eq_some_iff, Prod.exists, Prod.mk.injEq] at h
    obtain ⟨inner, rest', hsplit, rfl, rfl⟩ := h
    simp [text, ← splitAtBlockEnd_eq_some hsplit]
  · split at h
    · rename_i hbody
      simp only [Option.some.injEq, Prod.mk.injEq] at h
      simp [← h.1, ← h.2, text, ← splitRegexBody_eq_some hbody]
    · simp only [Option.some.injEq, Prod.mk.injEq] at h
      simp [← h.1, ← h.2, text]

theorem readCode?_eq_some {operandExpected : Bool} {c : Char} {cs rest : List Char}
    {lexeme : Lexeme} (h : readCode? operandExpected c cs = some (lexeme, rest)) :
    lexeme.text ++ rest = c :: cs := by
  unfold readCode? at h
  split at h
  · rename_i hc
    rw [hc]
    exact readSlash?_eq_some h
  · have hquoted := splitQuoted_append c cs
    grind [text, List.takeWhile_append_dropWhile]

end Lexeme

end WidgetPipeline.Script
