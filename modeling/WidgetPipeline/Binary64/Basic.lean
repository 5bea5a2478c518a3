/-!
Finite binary floating-point numbers of 64 bits, in exact arithmetic. A number is a sign, a
significand below `2 ^ 53` and a power of two; every operation computes the exact quotient first and
rounds it once, to the nearest number and to an even significand if two are equally near.
-/

namespace WidgetPipeline

/-- A finite double: `significand * 2 ^ exponent`, negated if `negative`. The two zeros differ in
their sign only. -/
structure Binary64 where
  negative : Bool
  significand : Nat
  exponent : Int
  significand_lt : significand < Nat.pow 2 53 := by decide
  exponent_range : -1074 ≤ exponent ∧ exponent ≤ 971 := by decide
  /-- A number has one representation: the least exponent, or a significand of full length. -/
  normal : exponent = -1074 ∨ Nat.pow 2 52 ≤ significand := by decide
deriving DecidableEq, Repr

/-- The integer nearest to a quotient, the even one of two that are equally near. -/
def roundQuotient (num den : Nat) : Nat :=
  let floor := num / den
  let twice := 2 * (num % den)
  if den < twice ∨ (twice = den ∧ floor % 2 = 1) then floor + 1 else floor

namespace Binary64

def zero (negative : Bool) : Binary64 := { negative, significand := 0, exponent := -1074 }

def isZero (x : Binary64) : Bool := x.significand = 0

def neg (x : Binary64) : Binary64 := { x with negative := !x.negative }

/-- The quotient divided by `2 ^ exponent`, rounded to an integer. -/
def scaledQuotient (num den : Nat) (exponent : Int) : Nat :=
  if 0 ≤ exponent then roundQuotient num (den * Nat.pow 2 exponent.toNat)
  else roundQuotient (num * Nat.pow 2 (-exponent).toNat) den

/-- The power of two that leaves 53 bits before the point of the quotient, if the range of exponents
allows it. -/
def quotientExponent (num den : Nat) : Int :=
  let guess : Int := (num.log2 : Int) - den.log2 - 52
  let short :=
    if 0 ≤ guess then num < den * Nat.pow 2 (guess.toNat + 52)
    else num * Nat.pow 2 (-guess).toNat < den * Nat.pow 2 52
  max (-1074) (if short then guess - 1 else guess)

/-- The number nearest to a quotient, or none if that is beyond the largest finite number. -/
def ofQuotient? (negative : Bool) (num den : Nat) : Option Binary64 :=
  if num = 0 then some (zero negative)
  else
    let exponent := quotientExponent num den
    let rounded := scaledQuotient num den exponent
    -- rounding up may reach the next power of two
    let (significand, exponent) :=
      if rounded = Nat.pow 2 53 then (Nat.pow 2 52, exponent + 1) else (rounded, exponent)
    if h : significand < Nat.pow 2 53 ∧ (-1074 ≤ exponent ∧ exponent ≤ 971) ∧
        (exponent = -1074 ∨ Nat.pow 2 52 ≤ significand) then
      some ⟨negative, significand, exponent, h.1, h.2.1, h.2.2⟩
    else none

/-- The number as an exact quotient of natural numbers, without its sign. -/
def toQuotient (x : Binary64) : Nat × Nat :=
  if 0 ≤ x.exponent then (x.significand * Nat.pow 2 x.exponent.toNat, 1)
  else (x.significand, Nat.pow 2 (-x.exponent).toNat)

/-- The product, or none if it is too large. -/
def mul? (x y : Binary64) : Option Binary64 :=
  let (a, b) := x.toQuotient
  let (c, d) := y.toQuotient
  ofQuotient? (x.negative != y.negative) (a * c) (b * d)

/-- The quotient by a number other than zero, or none if it is too large. -/
def div? (x y : Binary64) : Option Binary64 :=
  let (a, b) := x.toQuotient
  let (c, d) := y.toQuotient
  ofQuotient? (x.negative != y.negative) (a * d) (b * c)

/-- The number nearest to `digits * 10 ^ exponent`, or none if that is too large. -/
def ofDecimal? (negative : Bool) (digits : Nat) (exponent : Int) : Option Binary64 :=
  if 0 ≤ exponent then ofQuotient? negative (digits * Nat.pow 10 exponent.toNat) 1
  else ofQuotient? negative digits (Nat.pow 10 (-exponent).toNat)

end Binary64

end WidgetPipeline
