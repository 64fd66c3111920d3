import Numbering.Numeral.Binary64

/-! # Shortest decimals

A binary floating-point number is shown with the fewest digits that read back as it, always
positionally: no exponent, and no point after a whole number.

For each decimal place, from the coarsest on, the two multiples of that place next to the number are
tested: the first place with a hit gives the fewest digits. Of two hits the nearer one is taken, and
of two as near the upper. All comparisons are between natural numbers.
-/

namespace Numbering.Binary64

/-- A multiple of `10 ^ place` next to `mantissa · 2 ^ exponent` that reads back as it, divided by
the place. Bounds are counted in quarters of the last binary place: a number reads back from half a
place around it, from a quarter below a power of two, and from the bounds if its mantissa is even. -/
def onGrid? (mantissa : Nat) (exponent place : Int) : Option Nat :=
  let (times, divisor) := power 2 (exponent - 2)
  let (gridTimes, gridDivisor) := power 10 place
  let grid := gridTimes * divisor
  let quarter := times * gridDivisor
  let gap := if mantissa = Nat.pow 2 52 ∧ minExponent < exponent then 1 else 2
  let lowest := (4 * mantissa - gap) * quarter
  let number := 4 * mantissa * quarter
  let highest := (4 * mantissa + 2) * quarter
  let readsBack := fun (digits : Nat) =>
    if mantissa % 2 = 0 then decide (lowest ≤ digits * grid ∧ digits * grid ≤ highest)
    else decide (lowest < digits * grid ∧ digits * grid < highest)
  let below := number / grid
  let above := below + 1
  let nearer := decide (number - below * grid < above * grid - number)
  if readsBack below && (nearer || !readsBack above) then some below
  else if readsBack above then some above
  else none

/-- The coarsest place among the next `count` ones from `place` down that has a hit, with the
hit. -/
def shortestFrom (mantissa : Nat) (exponent : Int) : (count : Nat) → (place : Int) → Nat × Int
  | 0, place => (0, place)
  | count + 1, place =>
    match onGrid? mantissa exponent place with
    | some digits => (digits, place)
    | none => shortestFrom mantissa exponent count (place - 1)

/-- The fewest digits that read back as a positive number, and the place of the last one. The
largest number is below `10 ^ 309`, and every number is a multiple of `10 ^ -1074`. -/
def shortest (mantissa : Nat) (exponent : Int) : Nat × Int :=
  shortestFrom mantissa exponent 1385 309

/-- Digits before the place of the last one, positionally. -/
def positional (digits : Nat) (place : Int) : Text :=
  let written := Numeral.decimal digits
  if 0 ≤ place then written ++ List.replicate place.toNat '0'
  else
    let decimals := (-place).toNat
    let padded := List.replicate (decimals + 1 - written.length) '0' ++ written
    padded.take (padded.length - decimals) ++ ['.'] ++ padded.drop (padded.length - decimals)

def signText (negative : Bool) : Text :=
  if negative then ['-'] else []

def render : Binary64 → Text
  | .finite negative mantissa exponent =>
    if mantissa = 0 then signText negative ++ ['0']
    else
      let (digits, place) := shortest mantissa exponent
      signText negative ++ positional digits place
  | .infinite negative => signText negative ++ ['i', 'n', 'f']
  | .nan => ['N', 'a', 'N']

end Numbering.Binary64
