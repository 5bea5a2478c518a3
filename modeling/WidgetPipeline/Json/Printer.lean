import WidgetPipeline.Json.Basic
import WidgetPipeline.Binary64.Shortest

/-!
JSON texts of values, in a compact form without white space and in an indented form with one item a
line. Both write the fields of an object in the order in which it lists them. In strings the quote,
the backslash and the control characters are escaped, and everything else is written as it is.
-/

namespace WidgetPipeline.Json

/-- The two hexadecimal digits of a number below 256. -/
def hexByte (n : Nat) : List Char :=
  let digits := Nat.toDigits 16 n
  List.replicate (2 - digits.length) '0' ++ digits

def escape (c : Char) : List Char :=
  match c with
  | '"' => ['\\', '"']
  | '\\' => ['\\', '\\']
  | '\x08' => ['\\', 'b']
  | '\x0c' => ['\\', 'f']
  | '\n' => ['\\', 'n']
  | '\r' => ['\\', 'r']
  | '\t' => ['\\', 't']
  | c => if c.toNat < 0x20 then '\\' :: 'u' :: '0' :: '0' :: hexByte c.toNat else [c]

def quote (s : String) : List Char := '"' :: (s.toList.flatMap escape ++ ['"'])

def integerText : Int → List Char
  | .ofNat n => Nat.toDigits 10 n
  | .negSucc n => '-' :: Nat.toDigits 10 (n + 1)

def Number.text : Number → List Char
  | .integer n => integerText n
  | .double x => x.text

mutual

def compactChars : Json → List Char
  | .null => ['n', 'u', 'l', 'l']
  | .bool true => ['t', 'r', 'u', 'e']
  | .bool false => ['f', 'a', 'l', 's', 'e']
  | .number n => n.text
  | .string s => quote s
  | .array [] => ['[', ']']
  | .array (item :: items) => '[' :: (compactChars item ++ compactItems items)
  | .object [] => ['{', '}']
  | .object ((key, value) :: fields) =>
    '{' :: (quote key ++ ':' :: (compactChars value ++ compactFields fields))

/-- The compact text of the items behind the first, and the closing bracket. -/
def compactItems : List Json → List Char
  | [] => [']']
  | item :: items => ',' :: (compactChars item ++ compactItems items)

/-- The compact text of the fields behind the first, and the closing brace. -/
def compactFields : List (String × Json) → List Char
  | [] => ['}']
  | (key, value) :: fields =>
    ',' :: (quote key ++ ':' :: (compactChars value ++ compactFields fields))

end

/-- A line break and the indentation of a nesting depth, two blanks a level. -/
def newLine (depth : Nat) : List Char := '\n' :: List.replicate (2 * depth) ' '

mutual

/-- The indented text of a value that stands at a nesting depth. -/
def indentedChars (depth : Nat) : Json → List Char
  | .array [] => ['[', ']']
  | .array (item :: items) =>
    '[' :: (newLine (depth + 1) ++ indentedChars (depth + 1) item ++ indentedItems depth items)
  | .object [] => ['{', '}']
  | .object ((key, value) :: fields) =>
    '{' :: (newLine (depth + 1) ++ quote key ++ ':' :: ' ' ::
      (indentedChars (depth + 1) value ++ indentedFields depth fields))
  | .null => ['n', 'u', 'l', 'l']
  | .bool true => ['t', 'r', 'u', 'e']
  | .bool false => ['f', 'a', 'l', 's', 'e']
  | .number n => n.text
  | .string s => quote s

/-- The indented text of the items behind the first, and the closing bracket. -/
def indentedItems (depth : Nat) : List Json → List Char
  | [] => newLine depth ++ [']']
  | item :: items =>
    ',' :: (newLine (depth + 1) ++ indentedChars (depth + 1) item ++ indentedItems depth items)

/-- The indented text of the fields behind the first, and the closing brace. -/
def indentedFields (depth : Nat) : List (String × Json) → List Char
  | [] => newLine depth ++ ['}']
  | (key, value) :: fields =>
    ',' :: (newLine (depth + 1) ++ quote key ++ ':' :: ' ' ::
      (indentedChars (depth + 1) value ++ indentedFields depth fields))

end

def compact (value : Json) : String := String.ofList (compactChars value)

/-- The indented text of a value, two blanks a level. -/
def indented (value : Json) : String := String.ofList (indentedChars 0 value)

end WidgetPipeline.Json
