import WidgetPipeline.Json.Reader
import WidgetPipeline.Text.Utf8
import WidgetPipeline.Yaml.Node.Basic

/-!
What scalars stand for. A scalar that is written plainly and has no tag is taken for a null, a truth
value, an integer or a float, in this order, if it looks like one; every other scalar is a string,
unless its tag says what it is.
-/

namespace WidgetPipeline.Yaml

def isNullWord (text : String) : Bool := ["null", "Null", "NULL", "~"].contains text

def boolOfWord? (text : String) : Option Bool :=
  if ["true", "True", "TRUE"].contains text then some true
  else if ["false", "False", "FALSE"].contains text then some false
  else none

/-- The number that digits of a base spell, if there are digits and nothing else. -/
def natOfBase? (base : Nat) (digits : List Char) : Option Nat := do
  let values ← digits.mapM Json.hexValue?
  if values.isEmpty || !values.all (· < base) then none
  else some (values.foldl (fun n value => base * n + value) 0)

def dropSign : List Char → List Char
  | '+' :: cs => cs
  | '-' :: cs => cs
  | cs => cs

/-- Whether the text is a run of digits that starts with a needless zero. Such a text is no number.
-/
def hasNeedlessZero (cs : List Char) : Bool :=
  match dropSign cs with
  | '0' :: c :: rest => (c :: rest).all Char.isDigit
  | _ => false

/-- The natural number that a text spells, in the base that its first characters name. -/
def natural? (cs : List Char) : Option Nat :=
  match cs with
  | '0' :: 'x' :: digits => natOfBase? 16 digits
  | '0' :: 'o' :: digits => natOfBase? 8 digits
  | '0' :: 'b' :: digits => natOfBase? 2 digits
  | _ => if hasNeedlessZero cs then none else natOfBase? 10 cs

def integer? : List Char → Option Int
  | '+' :: cs => (natural? cs).map Int.ofNat
  | '-' :: cs => (natural? cs).map fun n => -(n : Int)
  | cs => (natural? cs).map Int.ofNat

/-- Whether an integer fits in a word of 64 bits, signed or unsigned. -/
def fitsWord (n : Int) : Bool := -(Nat.pow 2 63 : Nat) ≤ n && n < (Nat.pow 2 64 : Nat)

/-- Whether an integer fits in two words. -/
def fitsDoubleWord (n : Int) : Bool := -(Nat.pow 2 127 : Nat) ≤ n && n < (Nat.pow 2 128 : Nat)

/-- The parts of a decimal text: the digits, how many of them stand behind the point, and the power
of ten. -/
structure DecimalText where
  digits : List Char
  places : Nat
  power : Int

def readPower? : List Char → Option Int
  | [] => some 0
  | c :: cs =>
    if c ≠ 'e' ∧ c ≠ 'E' then none
    else
      let digits := dropSign cs
      if digits.isEmpty || !digits.all Char.isDigit then none
      else
        let size : Int := Text.natOfDigits digits
        some (if cs.head? = some '-' then -size else size)

/-- Reads a decimal without a sign. Its point may stand first or last, but not alone. -/
def readDecimal? (cs : List Char) : Option DecimalText :=
  let whole := cs.takeWhile Char.isDigit
  let (fraction, rest) :=
    match cs.dropWhile Char.isDigit with
    | '.' :: rest => (rest.takeWhile Char.isDigit, rest.dropWhile Char.isDigit)
    | rest => ([], rest)
  let digits := whole ++ fraction
  if digits.isEmpty then none
  else (readPower? rest).map fun power => { digits, places := fraction.length, power }

/-- The double nearest to a decimal, or none if it is too large. -/
def DecimalText.double? (decimal : DecimalText) (negative : Bool) : Option Binary64 :=
  let significand := Text.natOfDigits decimal.digits
  let exponent := decimal.power - decimal.places
  let size := (Nat.toDigits 10 significand).length + exponent
  -- out of this range the answer is known without the power
  if significand = 0 ∨ size < -400 then some (.zero negative)
  else if 400 < size then none
  else Binary64.ofDecimal? negative significand exponent

/-- A floating-point number: a finite one, or none of them. -/
inductive FloatValue where
  | finite (x : Binary64)
  | special

/-- The floating-point number that a text spells. -/
def float? (cs : List Char) : Option FloatValue :=
  let unsigned := dropSign cs
  if [".inf", ".Inf", ".INF"].contains (String.ofList unsigned) ||
      [".nan", ".NaN", ".NAN"].contains (String.ofList cs) then some .special
  else
    (readDecimal? unsigned).bind fun decimal =>
      (decimal.double? (cs.head? = some '-')).map .finite

/-- The value of a floating-point number. Only finite ones have one. -/
def FloatValue.toJson : FloatValue → Json
  | .finite x => .number (.double x)
  | .special => .null

def jsonOfInteger? (n : Int) : Option Json :=
  if fitsWord n then some (.number (.integer n)) else none

/-- The value of a plain scalar without a tag. It has none if it is an integer beyond the words that
still fits in two of them. -/
def plainValue? (text : String) : Option Json :=
  let cs := text.toList
  if text.isEmpty || isNullWord text then some .null
  else
    match boolOfWord? text, (integer? cs).filter fitsDoubleWord with
    | some b, _ => some (.bool b)
    | none, some n => jsonOfInteger? n
    | none, none =>
      match if hasNeedlessZero cs then none else float? cs with
      | some x => some x.toJson
      | none => some (.string text)

def tagText? (tag : List UInt8) : Option String := (Text.Utf8.decode tag).toOption

/-- Whether the tag is one of the application's own: it starts with an exclamation mark and is text.
-/
def isOwnTag (tag : List UInt8) : Bool := tag.head? = some 0x21 && (tagText? tag).isSome

/-- The value of a scalar, or none if it is not what its tag says. A tag of the application's own
says nothing that is known here; one that would be, were it text, is passed over if the scalar is
plain. -/
def scalarValue? (tag : Option (List UInt8)) (text : String) (plain : Bool) : Option Json :=
  let untagged := if plain then plainValue? text else some (.string text)
  match tag with
  | none => untagged
  | some tag =>
    if isOwnTag tag then none
    else if tag.head? = some 0x21 then untagged
    else
      match tagText? tag with
      | some "tag:yaml.org,2002:bool" => (boolOfWord? text).map .bool
      | some "tag:yaml.org,2002:int" => (integer? text.toList).bind jsonOfInteger?
      | some "tag:yaml.org,2002:float" => (float? text.toList).map FloatValue.toJson
      | some "tag:yaml.org,2002:null" => if isNullWord text then some .null else none
      | _ => some (.string text)

end WidgetPipeline.Yaml
