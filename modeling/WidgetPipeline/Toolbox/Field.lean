import WidgetPipeline.Toolbox.Numeral

/-!
Fields: the text of a number or a text in the form that a conversion asks for. Numbers are printed
exactly, rounded to the places that are wanted, with ties to the even digit. Both commands that
print with a format use them, the tool and the shell's.
-/

namespace WidgetPipeline.Toolbox

structure FieldStyle where
  left : Bool := false
  plus : Bool := false
  blank : Bool := false
  alternate : Bool := false
  zero : Bool := false
  width : Nat := 0
  places : Option Nat := none
deriving DecidableEq, Repr

namespace FieldStyle

def withFlag (style : FieldStyle) : Char → FieldStyle
  | '-' => { style with left := true }
  | '+' => { style with plus := true }
  | ' ' => { style with blank := true }
  | '#' => { style with alternate := true }
  | '0' => { style with zero := true }
  | _ => style

/-- The style with a width. A negative one asks for the left side. -/
def withWidth (style : FieldStyle) (width : Int) : FieldStyle :=
  { style with width := width.natAbs, left := style.left || width < 0 }

/-- The style with a number of places. A negative one asks for none. -/
def withPlaces (style : FieldStyle) (places : Int) : FieldStyle :=
  { style with places := if places < 0 then none else some places.natAbs }

/-- The least size of a field that is never built. -/
def sizeLimit : Nat := 0x10000000

/-- Whether the field would be beyond all reason. -/
def isTooLarge (style : FieldStyle) : Bool :=
  sizeLimit ≤ style.width || sizeLimit ≤ style.places.getD 0

def pad (style : FieldStyle) (text : List Char) : List Char :=
  let fill := List.replicate (style.width - text.length) ' '
  if style.left then text ++ fill else fill ++ text

/-- Fills a number up to the width: with zeros behind its sign, or with blanks. -/
def padNumber (style : FieldStyle) (zeros : Bool) (sign digits : List Char) : List Char :=
  if zeros && style.zero && !style.left then
    sign ++ List.replicate (style.width - sign.length - digits.length) '0' ++ digits
  else style.pad (sign ++ digits)

/-- A text, cut to the places. -/
def text (style : FieldStyle) (text : List Char) : List Char :=
  style.pad
    (match style.places with
    | some places => text.take places
    | none => text)

def sign (style : FieldStyle) (negative : Bool) : List Char :=
  if negative then ['-'] else if style.plus then ['+'] else if style.blank then [' '] else []

/-- The digits of a natural number, at least as many as there are places. Nothing is printed for zero
where there are none. -/
def digits (style : FieldStyle) (base n : Nat) : List Char :=
  let digits := if n = 0 then [] else Nat.toDigits base n
  List.replicate (style.places.getD 1 - digits.length) '0' ++ digits

def signed (style : FieldStyle) (n : Int) : List Char :=
  style.padNumber style.places.isNone (style.sign (n < 0)) (style.digits 10 n.natAbs)

/-- An unsigned integer in the notation of a conversion letter. -/
def unsigned (style : FieldStyle) (letter : Char) (n : Nat) : List Char :=
  match letter with
  | 'o' =>
    let digits := style.digits 8 n
    let digits := if style.alternate && digits.head? ≠ some '0' then '0' :: digits else digits
    style.padNumber style.places.isNone [] digits
  | 'x' =>
    let mark := if style.alternate && n ≠ 0 then ['0', 'x'] else []
    style.padNumber style.places.isNone mark (style.digits 16 n)
  | 'X' =>
    let mark := if style.alternate && n ≠ 0 then ['0', 'X'] else []
    style.padNumber style.places.isNone mark ((style.digits 16 n).map Char.toUpper)
  | _ => style.padNumber style.places.isNone [] (style.digits 10 n)

end FieldStyle

/-- A finite number of a size, times a power of ten, as a quotient. -/
def decimalQuotient (significand : Nat) (exponent power : Int) : Nat × Nat :=
  let (num, den) := scaleQuotient significand 1 exponent
  if 0 ≤ power then (num * Nat.pow 10 power.toNat, den) else (num, den * Nat.pow 10 (-power).toNat)

/-- Digits with a point in front of the last places. -/
def withPoint (alternate : Bool) (places n : Nat) : List Char :=
  let digits := Nat.toDigits 10 n
  let digits := List.replicate (places + 1 - digits.length) '0' ++ digits
  let whole := digits.take (digits.length - places)
  let fraction := digits.drop (digits.length - places)
  whole ++ (if fraction.isEmpty && !alternate then [] else '.' :: fraction)

/-- A number with some places behind the point. -/
def fixedDigits (alternate : Bool) (places significand : Nat) (exponent : Int) : List Char :=
  let (num, den) := decimalQuotient significand exponent places
  withPoint alternate places (roundQuotient num den)

/-- The greatest power of ten that is not above a number other than zero. -/
def decimalExponent (significand : Nat) (exponent : Int) : Int :=
  -- the number of digits is known up to one from the number of bits
  let guess : Int := (((significand.log2 : Int) + exponent) * 30103).fdiv 100000
  let atLeast (power : Int) : Bool :=
    let (num, den) := decimalQuotient significand exponent (-power)
    den ≤ num
  if atLeast (guess + 1) then guess + 1 else if atLeast guess then guess else guess - 1

/-- The digits of a number from the first on, some places behind it, and the power of ten of the
first. -/
def scientificDigits (places significand : Nat) (exponent : Int) : Nat × Int :=
  if significand = 0 then (0, 0)
  else
    let power := decimalExponent significand exponent
    let (num, den) := decimalQuotient significand exponent (places - power)
    let n := roundQuotient num den
    if n = Nat.pow 10 (places + 1) then (Nat.pow 10 places, power + 1) else (n, power)

/-- An exponent with its sign, in two digits at least. -/
def exponentText (letter : Char) (least : Nat) (power : Int) : List Char :=
  let digits := Nat.toDigits 10 power.natAbs
  [letter, if power < 0 then '-' else '+'] ++ List.replicate (least - digits.length) '0' ++ digits

/-- Drops the zeros at the end of a fraction, and a point that is left alone. -/
def dropTrailingZeros (text : List Char) : List Char :=
  if text.contains '.' then
    match text.reverse.dropWhile (· = '0') with
    | '.' :: rest => rest.reverse
    | rest => rest.reverse
  else text

/-- A number in the shorter of the two notations, with a number of significant digits. -/
def generalDigits (alternate : Bool) (precision significand : Nat) (exponent : Int) : List Char :=
  let precision := max precision 1
  let (n, power) := scientificDigits (precision - 1) significand exponent
  let trim := if alternate then id else dropTrailingZeros
  if -4 ≤ power && power < precision then
    trim (fixedDigits alternate (precision - 1 - power).toNat significand exponent)
  else trim (withPoint alternate (precision - 1) n) ++ exponentText 'e' 2 power

/-- A number in hexadecimal: the digits and the power of two. Without places there are as many as it
takes. -/
def hexadecimalDigits (format : FloatFormat) (alternate : Bool) (places : Option Nat)
    (significand : Nat) (exponent : Int) : List Char :=
  let whole (places : Option Nat) (n digits : Nat) (power : Int) : List Char :=
    let fraction := Nat.toDigits 16 (n % Nat.pow 16 digits)
    let fraction := List.replicate (digits - fraction.length) '0' ++ fraction
    let fraction := if digits = 0 then [] else fraction
    let fraction :=
      match places with
      | some _ => fraction
      | none => (fraction.reverse.dropWhile (· = '0')).reverse
    Nat.toDigits 16 (n / Nat.pow 16 digits) ++
      (if fraction.isEmpty && !alternate then [] else '.' :: fraction) ++ exponentText 'p' 1 power
  -- the digits behind the first one
  let count := (format.bits - format.leadingBits + 3) / 4
  let power : Int := if significand = 0 then 0 else exponent + (format.bits - format.leadingBits : Nat)
  let n := significand * Nat.pow 2 (4 * count - (format.bits - format.leadingBits))
  match places with
  | none => whole none n count power
  | some wanted =>
    if count ≤ wanted then
      whole (some wanted) (n * Nat.pow 16 (wanted - count)) wanted power
    else
      let rounded := roundQuotient n (Nat.pow 16 (count - wanted))
      if Nat.pow 16 (wanted + 1) ≤ rounded then
        whole (some wanted) (rounded / 16) wanted (power + 4)
      else whole (some wanted) rounded wanted power

/-- A floating-point number in the notation of a conversion letter. -/
def FieldStyle.float (style : FieldStyle) (format : FloatFormat) (letter : Char)
    (number : FloatNumber) : List Char :=
  let sign := style.sign number.negative
  let (mark, digits, finite) : List Char × List Char × Bool :=
    match number.size with
    | .infinite => ([], "inf".toList, false)
    | .notANumber => ([], "nan".toList, false)
    | .finite significand exponent =>
      let places := style.places.getD 6
      match letter.toLower with
      | 'f' => ([], fixedDigits style.alternate places significand exponent, true)
      | 'e' =>
        let (n, power) := scientificDigits places significand exponent
        ([], withPoint style.alternate places n ++ exponentText 'e' 2 power, true)
      | 'a' =>
        (['0', 'x'], hexadecimalDigits format style.alternate style.places significand exponent, true)
      | _ => ([], generalDigits style.alternate places significand exponent, true)
  let raise (text : List Char) : List Char := if letter.isUpper then text.map Char.toUpper else text
  style.padNumber finite (sign ++ raise mark) (raise digits)

end WidgetPipeline.Toolbox
