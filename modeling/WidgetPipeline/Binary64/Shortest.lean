import WidgetPipeline.Binary64.Basic

/-!
The shortest decimal text of a double: the fewest digits that read back as the same number, and of
those the ones nearest to it. Numbers from `0.00001` up to below `10 ^ 16` are written positionally
and always with a fraction, the others with an exponent that carries its sign.
-/

namespace WidgetPipeline.Binary64

/-- A decimal number `digits * 10 ^ exponent`. -/
structure DecimalDigits where
  digits : Nat
  exponent : Int
deriving DecidableEq, Repr

/-- The number of decimal digits of a natural number. -/
def digitCount (n : Nat) : Nat := (Nat.toDigits 10 n).length

/-- The integer part of `x * 10 ^ -exponent`, and the remainder with its denominator. -/
private def onGrid (x : Binary64) (exponent : Int) : Nat × Nat × Nat :=
  let (num, den) := x.toQuotient
  let (num, den) :=
    if 0 ≤ exponent then (num, den * Nat.pow 10 exponent.toNat)
    else (num * Nat.pow 10 (-exponent).toNat, den)
  (num / den, num % den, den)

def readsBack (x : Binary64) (decimal : DecimalDigits) : Bool :=
  ofDecimal? x.negative decimal.digits decimal.exponent = some x

/-- The multiple of `10 ^ exponent` that is read as `x` and is nearest to it, the one with the even
digit if two are equally near. Only the two neighbours of `x` can be nearest. -/
def nearestOnGrid? (x : Binary64) (exponent : Int) : Option DecimalDigits :=
  let (floor, remainder, den) := onGrid x exponent
  let below : DecimalDigits := ⟨floor, exponent⟩
  let above : DecimalDigits := ⟨floor + 1, exponent⟩
  match x.readsBack below, x.readsBack above with
  | true, true =>
    if 2 * remainder < den ∨ (2 * remainder = den ∧ floor % 2 = 0) then some below else some above
  | true, false => some below
  | false, true => some above
  | false, false => none

/-- The power of ten of the leading digit of a number other than zero. -/
def leadingExponent (x : Binary64) : Int :=
  let (num, den) := x.toQuotient
  if den ≤ num then digitCount (num / den) - 1
  else
    -- `den / num` has as many digits as there are places before the leading digit, or one more
    let places := digitCount (den / num)
    if den ≤ num * Nat.pow 10 (places - 1) then 1 - (places : Int) else -(places : Int)

/-- The fewest digits that read back as `x`, trying more and more digits from `count` on. Seventeen
digits always suffice. -/
def shortestFrom (x : Binary64) (lead : Int) (count : Nat) : Nat → DecimalDigits
  | 0 => ⟨(onGrid x (lead - count + 1)).1, lead - count + 1⟩
  | tries + 1 =>
    match x.nearestOnGrid? (lead - count + 1) with
    | some decimal => decimal
    | none => shortestFrom x lead (count + 1) tries

/-- The fewest digits that read back as a number other than zero. -/
def shortest (x : Binary64) : DecimalDigits := shortestFrom x x.leadingExponent 1 17

private def stripZeros (digits : List Char) : List Char :=
  (digits.reverse.dropWhile (· = '0')).reverse

/-- The text of the number without its sign. -/
def magnitudeText (x : Binary64) : List Char :=
  if x.isZero then ['0', '.', '0']
  else
    let decimal := x.shortest
    let all := Nat.toDigits 10 decimal.digits
    let digits := stripZeros all
    let lead : Int := decimal.exponent + all.length - 1
    if 0 ≤ lead ∧ lead ≤ 15 then
      let whole := lead.toNat + 1
      let padded := digits ++ List.replicate (whole - digits.length) '0'
      let fraction := padded.drop whole
      padded.take whole ++ '.' :: (if fraction.isEmpty then ['0'] else fraction)
    else if -5 ≤ lead ∧ lead < 0 then
      ['0', '.'] ++ List.replicate ((-lead).toNat - 1) '0' ++ digits
    else
      let sign := if 0 ≤ lead then '+' else '-'
      let mantissa :=
        match digits with
        | [] => ['0']
        | [digit] => [digit]
        | digit :: fraction => digit :: '.' :: fraction
      mantissa ++ ['e', sign] ++ Nat.toDigits 10 lead.natAbs

def text (x : Binary64) : List Char :=
  if x.negative then '-' :: x.magnitudeText else x.magnitudeText

end WidgetPipeline.Binary64
