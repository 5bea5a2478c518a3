import WidgetPipeline.Json.Document

/-!
Reading JSON text. The grammar is that of the standard: one value with white space around it, no
trailing commas, no leading zeros, no raw control characters in strings. Each reader takes the text
and gives what it read with the text that follows.
-/

namespace WidgetPipeline.Json

/-- The white space between the parts of a JSON text. -/
def isSpace (c : Char) : Bool := c = ' ' || c = '\n' || c = '\t' || c = '\r'

/-- The text without the white space in front of it. -/
def skipSpace (cs : List Char) : List Char := cs.dropWhile isSpace

def hexValue? (c : Char) : Option Nat :=
  if '0' ≤ c ∧ c ≤ '9' then some (c.toNat - '0'.toNat)
  else if 'a' ≤ c ∧ c ≤ 'f' then some (c.toNat - 'a'.toNat + 10)
  else if 'A' ≤ c ∧ c ≤ 'F' then some (c.toNat - 'A'.toNat + 10)
  else none

/-- An element of a string as it is written: a character, or an escape by its 16-bit unit. -/
inductive StringPart where
  | char (c : Char)
  | unit (u : Nat)
deriving DecidableEq, Repr

/-- The character of a unit that is no half of a surrogate pair. -/
def charOfUnit? (u : Nat) : Option Char :=
  if h : u.isValidChar then some (Char.ofNatAux u h) else none

def charOfPair? (high low : Nat) : Option Char :=
  if 0xD800 ≤ high ∧ high < 0xDC00 ∧ 0xDC00 ≤ low ∧ low < 0xE000 then
    charOfUnit? (0x10000 + (high - 0xD800) * 0x400 + (low - 0xDC00))
  else none

/-- The text of string parts, or none if a surrogate stands without its partner. -/
def textOfParts? : List StringPart → Option (List Char)
  | [] => some []
  | .char c :: parts => (textOfParts? parts).map (c :: ·)
  | .unit high :: .unit low :: parts =>
    match charOfUnit? high, charOfPair? high low with
    | some c, _ => (textOfParts? (.unit low :: parts)).map (c :: ·)
    | none, some c => (textOfParts? parts).map (c :: ·)
    | none, none => none
  | .unit u :: parts =>
    match charOfUnit? u with
    | some c => (textOfParts? parts).map (c :: ·)
    | none => none

def escapeChar? : Char → Option Char
  | '"' => some '"'
  | '\\' => some '\\'
  | '/' => some '/'
  | 'b' => some '\x08'
  | 'f' => some '\x0c'
  | 'n' => some '\n'
  | 'r' => some '\r'
  | 't' => some '\t'
  | _ => none

/-- Reads the parts of a string up to its closing quote; the opening one is taken already. -/
def readParts : List Char → Option (List StringPart × List Char)
  | [] => none
  | '"' :: cs => some ([], cs)
  | '\\' :: 'u' :: a :: b :: c :: d :: cs =>
    match hexValue? a, hexValue? b, hexValue? c, hexValue? d with
    | some a, some b, some c, some d =>
      (readParts cs).map fun (parts, rest) =>
        (.unit (((a * 16 + b) * 16 + c) * 16 + d) :: parts, rest)
    | _, _, _, _ => none
  | '\\' :: e :: cs =>
    match escapeChar? e with
    | some c => (readParts cs).map fun (parts, rest) => (.char c :: parts, rest)
    | none => none
  | c :: cs =>
    if c = '\\' ∨ c.toNat < 0x20 then none
    else (readParts cs).map fun (parts, rest) => (.char c :: parts, rest)

/-- Reads a string whose opening quote is taken already: its text, if it stands for one. -/
def readString (cs : List Char) : Option (Option String × List Char) :=
  (readParts cs).map fun (parts, rest) => ((textOfParts? parts).map String.ofList, rest)

def spanDigits (cs : List Char) : List Char × List Char := cs.span Char.isDigit

def readFraction (cs : List Char) : Option (Option (List Char) × List Char) :=
  match cs with
  | '.' :: cs =>
    match spanDigits cs with
    | ([], _) => none
    | (digits, rest) => some (some digits, rest)
  | cs => some (none, cs)

/-- Reads the power of ten at the end of a numeral. -/
def readExponent (cs : List Char) : Option (Option Exponent × List Char) :=
  match cs with
  | c :: cs =>
    if c = 'e' ∨ c = 'E' then
      let (negative, cs) :=
        match cs with
        | '-' :: cs => (true, cs)
        | '+' :: cs => (false, cs)
        | cs => (false, cs)
      match spanDigits cs with
      | ([], _) => none
      | (digits, rest) => some (some ⟨negative, digits⟩, rest)
    else some (none, c :: cs)
  | [] => some (none, [])

/-- Reads the digits in front of the point: a zero alone, or digits that no zero leads. -/
def readWhole (cs : List Char) : Option (List Char × List Char) :=
  match spanDigits cs with
  | ([], _) => none
  | (['0'], rest) => some (['0'], rest)
  | ('0' :: _, _) => none
  | (digits, rest) => some (digits, rest)

def readNumeral (cs : List Char) : Option (Numeral × List Char) := do
  let (negative, cs) :=
    match cs with
    | '-' :: cs => (true, cs)
    | cs => (false, cs)
  let (whole, cs) ← readWhole cs
  let (fraction, cs) ← readFraction cs
  let (exponent, cs) ← readExponent cs
  return (⟨negative, whole, fraction, exponent⟩, cs)

mutual

/-- Reads a value behind optional white space. Each value takes one step of `fuel`, and so does each
item and field, so that the length of the text suffices. -/
def readValue (fuel : Nat) (cs : List Char) : Option (Document × List Char) :=
  match fuel, skipSpace cs with
  | 0, _ => none
  | _, [] => none
  | fuel + 1, '[' :: cs =>
    match skipSpace cs with
    | ']' :: cs => some (.array [], cs)
    | cs => (readItems fuel cs).map fun (items, rest) => (.array items, rest)
  | fuel + 1, '{' :: cs =>
    match skipSpace cs with
    | '}' :: cs => some (.object [], cs)
    | cs => (readFields fuel cs).map fun (fields, rest) => (.object fields, rest)
  | _ + 1, '"' :: cs => (readString cs).map fun (text, rest) => (.string text, rest)
  | _ + 1, 'n' :: 'u' :: 'l' :: 'l' :: cs => some (.null, cs)
  | _ + 1, 't' :: 'r' :: 'u' :: 'e' :: cs => some (.bool true, cs)
  | _ + 1, 'f' :: 'a' :: 'l' :: 's' :: 'e' :: cs => some (.bool false, cs)
  | _ + 1, cs => (readNumeral cs).map fun (numeral, rest) => (.number numeral.value?, rest)

def readItems (fuel : Nat) (cs : List Char) : Option (List Document × List Char) :=
  match fuel with
  | 0 => none
  | fuel + 1 =>
    match readValue fuel cs with
    | none => none
    | some (item, rest) =>
      match skipSpace rest with
      | ']' :: rest => some ([item], rest)
      | ',' :: rest => (readItems fuel rest).map fun (items, rest) => (item :: items, rest)
      | _ => none

def readFields (fuel : Nat) (cs : List Char) :
    Option (List (Option String × Document) × List Char) :=
  match fuel, skipSpace cs with
  | fuel + 1, '"' :: cs =>
    match readString cs with
    | none => none
    | some (key, rest) =>
      match skipSpace rest with
      | ':' :: rest =>
        match readValue fuel rest with
        | none => none
        | some (value, rest) =>
          match skipSpace rest with
          | '}' :: rest => some ([(key, value)], rest)
          | ',' :: rest =>
            (readFields fuel rest).map fun (fields, rest) => ((key, value) :: fields, rest)
          | _ => none
      | _ => none
  | _, _ => none

end

/-- Reads a JSON text, which holds one value and nothing else. -/
def Document.read? (text : String) : Option Document :=
  let cs := text.toList
  match readValue (2 * cs.length + 1) cs with
  | some (document, rest) => if (skipSpace rest).isEmpty then some document else none
  | none => none

def read? (text : String) : Option Json :=
  (Document.read? text).bind (Document.toJson? Document.maxDepth)

end WidgetPipeline.Json
