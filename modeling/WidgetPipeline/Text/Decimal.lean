/-!
Natural numbers in decimal digits.
-/

namespace WidgetPipeline.Text

def digitValue (c : Char) : Nat := c.toNat - '0'.toNat

def natOfDigits (digits : List Char) : Nat :=
  digits.foldl (fun n c => 10 * n + digitValue c) 0

/-- The least number that does not fit in a word of 64 bits. -/
def wordLimit : Nat := Nat.pow 2 64

/-- Reads an unsigned number of 64 bits: decimal digits, behind a plus sign or not. -/
def readUnsigned64? (cs : List Char) : Option Nat :=
  let digits :=
    match cs with
    | '+' :: digits => digits
    | digits => digits
  if digits.isEmpty || !digits.all Char.isDigit then none
  else
    let n := natOfDigits digits
    if n < wordLimit then some n else none

end WidgetPipeline.Text
