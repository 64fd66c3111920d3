import Numbering.Alphabet
import Numbering.Numeral
import Numbering.Numeral.Bijective

/-! # Counting words through an alphabet

The non-empty words over an alphabet are the bijective numerals whose digits are its letters:
`a, b, …, z, aa, ab, …`. Moving a word by a count works as on an odometer. The count is added at
the last letter and carried to the left; a debt left over at the front takes the leading letters
back, and a surplus grows new ones. A word that would fall to zero or below is empty, and so is one
whose sums leave the signed 128-bit words.
-/

namespace Numbering.Alphabet

/-- Adds a carry to the least significant place and carries on; places come least significant
first, and the carry that leaves the last of them is returned. -/
def ripple? (base : Nat) (carry : Int) : List Nat → Option (Int × List Nat)
  | [] => some (carry, [])
  | place :: rest =>
    if carry = 0 then some (0, place :: rest)
    else do
      let total ← Numeral.longWord? (place + carry)
      let (left, moved) ← ripple? base (total / base) rest
      return (left, (total % base).toNat :: moved)

/-- Pays a negative carry with leading places, most significant first, until it is paid. -/
def absorb? (base : Nat) (carry : Int) : List Nat → Option (Nat × List Nat)
  | [] => if carry < 0 then none else some (carry.toNat, [])
  | place :: rest =>
    if carry < 0 then do
      let scaled ← Numeral.longWord? (carry * base)
      let paid ← Numeral.longWord? (scaled + (place + 1))
      absorb? base paid rest
    else some (carry.toNat, place :: rest)

/-- Moves a numeral by a count; most significant places come first. -/
def movePlaces? (base : Nat) (places : List Nat) (count : Int) : Option (List Nat) := do
  let (carry, moved) ← ripple? base count places.reverse
  let (surplus, kept) ← absorb? base carry moved.reverse
  return Bijective.numeral base surplus ++ kept

/-- The places of the letters of a word, if all of them belong to the alphabet. -/
def places? (alphabet : Alphabet) (word : Text) : Option (List Nat) :=
  word.mapM alphabet.place?

def spell (alphabet : Alphabet) (places : List Nat) : Text :=
  places.filterMap (alphabet.letters[·]?)

/-- The word that stands `count` places after `start`, or before it for a negative count. -/
def advance (alphabet : Alphabet) (start : Text) (count : Int) : Text :=
  match (alphabet.places? start).bind (movePlaces? alphabet.size · count) with
  | some places => alphabet.spell places
  | none => []

end Numbering.Alphabet
