import Numbering.Numeral

/-! # Binary floating-point numbers

The numbers of the 64-bit binary format are exact values `mantissa · 2 ^ exponent`; no machine
arithmetic is used. A decimal is read as the nearest of them, a tie going to the even mantissa, and is
infinite past the largest one. Where a count is wanted a number is rounded to a whole one.
-/

namespace Numbering

/-- A number of the 64-bit binary format. -/
inductive Binary64
  | finite (negative : Bool) (mantissa : Nat) (exponent : Int)
  | infinite (negative : Bool)
  | nan
  deriving DecidableEq, Repr

namespace Binary64

/-- The least exponent, that of the numbers nearest zero. -/
def minExponent : Int := -1074

/-- The greatest exponent of a finite number. -/
def maxExponent : Int := 971

/-- The factors by which a power of a base multiplies and divides. -/
def power (base : Nat) (exponent : Int) : Nat × Nat :=
  if 0 ≤ exponent then (Nat.pow base exponent.toNat, 1)
  else (1, Nat.pow base (-exponent).toNat)

/-- The integer nearest a quotient, a tie going to the even one. -/
def roundEven (numerator denominator : Nat) : Nat :=
  let quotient := numerator / denominator
  let twice := 2 * (numerator % denominator)
  if twice < denominator then quotient
  else if denominator < twice then quotient + 1
  else quotient + quotient % 2

/-- The number nearest a positive quotient. -/
def ofQuotient (negative : Bool) (numerator denominator : Nat) : Binary64 :=
  let estimate := max ((numerator.log2 : Int) - denominator.log2 - 53) minExponent
  let scaled := fun (exponent : Int) =>
    let (times, divisor) := power 2 exponent
    (numerator * divisor, denominator * times)
  let (top, bottom) := scaled estimate
  let exponent := if top / bottom < Nat.pow 2 53 then estimate else estimate + 1
  let (top, bottom) := scaled exponent
  let rounded := roundEven top bottom
  let (mantissa, exponent) :=
    if rounded = Nat.pow 2 53 then (Nat.pow 2 52, exponent + 1) else (rounded, exponent)
  if maxExponent < exponent then .infinite negative else .finite negative mantissa exponent

/-- The number nearest `digits · 10 ^ exponent`. A power of ten that is far past the range of the
format is not computed. -/
def ofDecimal (negative : Bool) (digits : Nat) (exponent : Int) : Binary64 :=
  let magnitude := exponent + (Numeral.decimal digits).length
  if digits = 0 ∨ magnitude < -400 then .finite negative 0 minExponent
  else if 400 < magnitude then .infinite negative
  else
    let (times, divisor) := power 10 exponent
    ofQuotient negative (digits * times) divisor

/-- The nearest unsigned 64-bit word, a half going up: what lies below the words is the first of
them, what lies above is the last, and no number is the first. -/
def toWord : Binary64 → Nat
  | .finite true _ _ => 0
  | .finite false mantissa exponent =>
    let (times, divisor) := power 2 exponent
    min ((2 * (mantissa * times) + divisor) / (2 * divisor)) Numeral.maxWord
  | .infinite true => 0
  | .infinite false => Numeral.maxWord
  | .nan => 0

end Binary64

end Numbering
