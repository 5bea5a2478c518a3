import WidgetPipeline.Binary64.Basic
import WidgetPipeline.Json.Reader
import WidgetPipeline.Text.Decimal

/-!
Numerals in the arguments of tools. A numeral is read from the start of a text as far as it goes;
what is left is for the caller to judge. Integers are decimal, octal behind a zero or hexadecimal behind
`0x`; floating-point numbers are decimal or hexadecimal, and are rounded once to
the format that is wanted.
-/

namespace WidgetPipeline.Toolbox

/-- What was read from the start of a text: a value, the text behind it, and whether the numeral was
out of the range of values. -/
structure Reading (α : Type) where
  value : α
  rest : List Char
  outOfRange : Bool := false

def isNumeralSpace (c : Char) : Bool := c = ' ' || (9 ≤ c.toNat && c.toNat ≤ 13)

/-- The value of a digit, also of a letter as a digit. -/
def digitOf? (c : Char) : Option Nat :=
  if c.isDigit then some (c.toNat - '0'.toNat)
  else if c.isAlpha then some (c.toLower.toNat - 'a'.toNat + 10)
  else none

def isDigitOf (base : Nat) (c : Char) : Bool := ((digitOf? c).map fun digit => decide (digit < base)).getD false

def valueOf (base : Nat) (digits : List Char) : Nat :=
  digits.foldl (fun n c => base * n + (digitOf? c).getD 0) 0

def digitsAt (base : Nat) (cs : List Char) : List Char := cs.takeWhile (isDigitOf base)

/-- The base of the numeral at the start of a text, and the text without what tells it. -/
def baseAt (cs : List Char) : Nat × List Char :=
  match cs with
  | '0' :: c :: d :: rest =>
    if (c = 'x' || c = 'X') && isDigitOf 16 d then (16, d :: rest)
    else (8, cs)
  | '0' :: _ => (8, cs)
  | _ => (10, cs)

def signAt : List Char → Bool × List Char
  | '-' :: cs => (true, cs)
  | '+' :: cs => (false, cs)
  | cs => (false, cs)

/-- Reads an integer without bounds. A text that starts with none is left whole. `base` is that of the
digits, if it is not for them to tell. -/
def readInteger (text : List Char) (base : Option Nat := none) : Option (Int × List Char) :=
  let (negative, cs) := signAt (text.dropWhile isNumeralSpace)
  let (base, cs) :=
    match base with
    | some base => (base, cs)
    | none => baseAt cs
  let digits := digitsAt base cs
  if digits.isEmpty then none
  else
    let n : Int := valueOf base digits
    some (if negative then -n else n, cs.drop digits.length)

/-- Reads a signed integer of 64 bits. One beyond is taken for the nearest. -/
def readSigned (text : List Char) : Reading Int :=
  match readInteger text with
  | none => { value := 0, rest := text }
  | some (n, rest) =>
    let limit : Int := Nat.pow 2 63
    if n < -limit then { value := -limit, rest, outOfRange := true }
    else if limit ≤ n then { value := limit - 1, rest, outOfRange := true }
    else { value := n, rest }

/-- Reads an unsigned integer of 64 bits. A negative one counts from the end of the range. -/
def readUnsigned (text : List Char) : Reading Nat :=
  match readInteger text with
  | none => { value := 0, rest := text }
  | some (n, rest) =>
    let limit := Nat.pow 2 64
    if limit ≤ n.natAbs then { value := limit - 1, rest, outOfRange := true }
    else { value := if n < 0 then (limit - n.natAbs) % limit else n.natAbs, rest }

structure FloatFormat where
  bits : Nat
  /-- The least exponent of the last bit. -/
  least : Int
  /-- All numbers are below the power of two with this exponent. -/
  limit : Int
  /-- The number of bits of the first digit in hexadecimal. -/
  leadingBits : Nat
deriving DecidableEq, Repr

namespace FloatFormat

def double : FloatFormat := { bits := 53, least := -1074, limit := 1024, leadingBits := 1 }

def extended : FloatFormat := { bits := 64, least := -16445, limit := 16384, leadingBits := 4 }

end FloatFormat

inductive FloatSize where
  | finite (significand : Nat) (exponent : Int)
  | infinite
  | notANumber
deriving DecidableEq, Repr

structure FloatNumber where
  negative : Bool := false
  size : FloatSize := .finite 0 0
deriving DecidableEq, Repr

def scaleQuotient (num den : Nat) (power : Int) : Nat × Nat :=
  if 0 ≤ power then (num * Nat.pow 2 power.toNat, den) else (num, den * Nat.pow 2 (-power).toNat)

/-- The exponent of the greatest power of two that is not above a quotient. -/
def quotientLog (num den : Nat) : Int :=
  let guess : Int := (num.log2 : Int) - den.log2
  let (n, d) := scaleQuotient num den (-guess)
  if n < d then guess - 1 else guess

/-- The number of a format that is nearest to a quotient, and whether the quotient was out of the
range in which the format is as exact as it can be. -/
def FloatFormat.nearest (format : FloatFormat) (num den : Nat) : FloatSize × Bool :=
  if num = 0 then (.finite 0 0, false)
  else
    let exponent := max (quotientLog num den - (format.bits - 1 : Nat)) format.least
    let (n, d) := scaleQuotient num den (-exponent)
    let significand := roundQuotient n d
    let tiny := significand < Nat.pow 2 (format.bits - 1)
    let exact := n % d = 0
    let (significand, exponent) :=
      if significand = Nat.pow 2 format.bits then (Nat.pow 2 (format.bits - 1), exponent + 1)
      else (significand, exponent)
    if format.limit < exponent + format.bits then (.infinite, true)
    else (.finite significand exponent, tiny && !exact)

/-- The digits of a fraction: those before and behind the point, and the text behind them. -/
def fractionAt (base : Nat) (cs : List Char) : List Char × List Char × List Char :=
  let whole := digitsAt base cs
  match cs.drop whole.length with
  | '.' :: rest =>
    let fraction := digitsAt base rest
    if whole.isEmpty && fraction.isEmpty then ([], [], cs)
    else (whole, fraction, rest.drop fraction.length)
  | rest => (whole, [], rest)

/-- The exponent behind a fraction, if there is one, and the text behind it. -/
def exponentAt (letter : Char) (cs : List Char) : Int × List Char :=
  match cs with
  | c :: rest =>
    if c.toLower = letter then
      let (negative, behind) := signAt rest
      let digits := digitsAt 10 behind
      if digits.isEmpty then (0, cs)
      else
        let n : Int := valueOf 10 digits
        (if negative then -n else n, behind.drop digits.length)
    else (0, cs)
  | [] => (0, cs)

/-- A word at the start of a text, in letters of either kind. -/
def wordAt? (word : String) (cs : List Char) : Option (List Char) :=
  if (cs.take word.length).map Char.toLower = word.toList then some (cs.drop word.length) else none

/-- The text behind what may follow a number that is none: characters in parentheses. -/
def dropPayload (cs : List Char) : List Char :=
  match cs with
  | '(' :: rest =>
    match rest.dropWhile fun c => c.isAlphanum || c = '_' with
    | ')' :: rest => rest
    | _ => cs
  | cs => cs

/-- The size of a number with a significand and an exponent in a base, which are taken to be within
reason: beyond, the answer is known without the power. -/
def FloatFormat.sizeOf (format : FloatFormat) (base significand : Nat) (exponent : Int)
    (digits : Nat) : FloatSize × Bool :=
  let reach : Int := (digits : Int) + exponent
  if significand = 0 then (.finite 0 0, false)
  else if 2 * format.limit < reach then (.infinite, true)
  else if reach < 2 * format.least then (.finite 0 0, true)
  else if 0 ≤ exponent then format.nearest (significand * Nat.pow base exponent.toNat) 1
  else format.nearest significand (Nat.pow base (-exponent).toNat)

/-- Reads a floating-point number without its sign. -/
def FloatFormat.readSize (format : FloatFormat) (cs : List Char) : Option (Reading FloatSize) :=
  let hexadecimal :=
    match cs with
    | '0' :: x :: rest =>
      let (whole, fraction, _) := fractionAt 16 rest
      (x = 'x' || x = 'X') && !(whole ++ fraction).isEmpty
    | _ => false
  if hexadecimal then
    let (whole, fraction, rest) := fractionAt 16 (cs.drop 2)
    let (power, rest) := exponentAt 'p' rest
    let (value, outOfRange) :=
      format.sizeOf 2 (valueOf 16 (whole ++ fraction)) (power - 4 * fraction.length)
        (4 * (whole ++ fraction).length)
    some { value, rest, outOfRange }
  else
    let (whole, fraction, rest) := fractionAt 10 cs
    if !(whole ++ fraction).isEmpty then
      let (power, rest) := exponentAt 'e' rest
      let (value, outOfRange) :=
        format.sizeOf 10 (valueOf 10 (whole ++ fraction)) (power - fraction.length)
          (whole ++ fraction).length
      some { value, rest, outOfRange }
    else
      match wordAt? "infinity" cs <|> wordAt? "inf" cs, wordAt? "nan" cs with
      | some rest, _ => some { value := .infinite, rest }
      | none, some rest => some { value := .notANumber, rest := dropPayload rest }
      | none, none => none

/-- Reads a floating-point number. A text that starts with none is left whole. -/
def FloatFormat.read (format : FloatFormat) (text : List Char) : Reading FloatNumber :=
  let (negative, cs) := signAt (text.dropWhile isNumeralSpace)
  match format.readSize cs with
  | some { value := size, rest, outOfRange } => { value := { negative, size }, rest, outOfRange }
  | none => { value := {}, rest := text }

end WidgetPipeline.Toolbox
