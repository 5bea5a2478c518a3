import WidgetPipeline.Json.Basic
import WidgetPipeline.Text.Decimal

/-!
JSON numerals. A numeral is the text of a number, cut into its parts; its value is an integer where
the text is one that fits in 64 bits, and a double otherwise. The digits of a double are gathered
into a 64-bit significand as long as they fit, and the power of ten is applied to its double in one
multiplication or division, so that the last bit of a long numeral may be off.
-/

namespace WidgetPipeline.Json

/-- The power of ten at the end of a numeral. -/
structure Exponent where
  negative : Bool
  digits : List Char
deriving DecidableEq, Repr

structure Numeral where
  negative : Bool
  whole : List Char
  /-- The digits behind the point, if there is a point. -/
  fraction : Option (List Char)
  exponent : Option Exponent
deriving DecidableEq, Repr

/-- Appends digits to a significand until one does not fit in 64 bits: the significand, and how many
digits were left out. -/
def gatherDigits (significand : Nat) : List Char → Nat × Nat
  | [] => (significand, 0)
  | c :: cs =>
    let next := 10 * significand + Text.digitValue c
    if next < Text.wordLimit then gatherDigits next cs else (significand, cs.length + 1)

/-- The largest power of ten that a double can hold. -/
def largestPower : Nat := 308

theorem largestPower_pos : 0 < largestPower := by decide

def powerOfTen (power : Nat) : Binary64 :=
  (Binary64.ofDecimal? false 1 power).getD (Binary64.zero false)

/-- Divides by a power of ten, in several steps where no double holds it. -/
def divideByPower? (x : Binary64) (power : Nat) : Option Binary64 :=
  if _h : power ≤ largestPower then x.div? (powerOfTen power)
  else if x.isZero then some x
  else (x.div? (powerOfTen largestPower)).bind fun y => divideByPower? y (power - largestPower)
termination_by power
decreasing_by have := largestPower_pos; omega

/-- Multiplies by a power of ten. Nothing but zero has room for a power that no double holds. -/
def multiplyByPower? (x : Binary64) (power : Nat) : Option Binary64 :=
  if power ≤ largestPower then x.mul? (powerOfTen power)
  else if x.isZero then some x
  else none

/-- Multiplies by ten to an exponent of either sign. -/
def scale? (x : Binary64) (exponent : Int) : Option Binary64 :=
  if 0 ≤ exponent then multiplyByPower? x exponent.toNat else divideByPower? x exponent.natAbs

namespace Numeral

/-- The numeral as a double, or none if it is beyond the largest one. -/
def double? (numeral : Numeral) : Option Binary64 :=
  let (significand, skipped) := gatherDigits 0 numeral.whole
  let fraction := numeral.fraction.getD []
  let (significand, unused) := gatherDigits significand fraction
  let shift : Int := skipped - (fraction.length - unused : Nat)
  let unsigned :=
    match numeral.exponent with
    | none => (Binary64.ofQuotient? false significand 1).bind (scale? · shift)
    | some power =>
      let size := Text.natOfDigits power.digits
      if Nat.pow 2 31 ≤ size then
        if significand ≠ 0 ∧ !power.negative then none else some (Binary64.zero false)
      else
        let shift := if power.negative then shift - size else shift + size
        (Binary64.ofQuotient? false significand 1).bind (scale? · shift)
  unsigned.map fun x => if numeral.negative then x.neg else x

/-- The value of the numeral, or none if it is beyond the largest double. -/
def value? (numeral : Numeral) : Option Number :=
  let whole := Text.natOfDigits numeral.whole
  match numeral.fraction, numeral.exponent with
  | none, none =>
    if numeral.negative then
      if whole ≠ 0 ∧ whole ≤ Nat.pow 2 63 then some (.integer (-whole))
      else numeral.double?.map .double
    else if whole < Text.wordLimit then some (.integer whole)
    else numeral.double?.map .double
  | _, _ => numeral.double?.map .double

end Numeral

end WidgetPipeline.Json
