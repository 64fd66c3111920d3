import Numbering.Text

/-! # Sequence expressions

An expression says where a sequence starts, in which direction and by how much it moves, and how
its values are shown. A numeric start gives numbers in a radix, and a word gives words counted
through an alphabet.
-/

namespace Numbering

/-- The first value of a sequence, which also decides its kind. -/
inductive Start
  | numeric (number : Int)
  | alphabetic (word : Text)
  deriving DecidableEq, Repr

/-- The direction in which a sequence moves. -/
inductive Operator
  | add
  | subtract
  deriving DecidableEq, Repr

def Operator.sign : Operator → Int
  | .add => 1
  | .subtract => -1

/-- A sequence and the way its values are shown. -/
structure Expression where
  start : Start
  operator : Operator
  /-- The distance between neighbouring values. -/
  step : Nat
  /-- The number of values skipped before the first one. -/
  offset : Nat
  /-- The base of numeric values. -/
  radix : Nat
  /-- The character that fills a short value. -/
  fill : Char
  /-- The least number of characters of a value, a sign not counted. -/
  width : Nat
  /-- The number of consecutive indices that share one value. -/
  repeats : Nat
  repeats_pos : 0 < repeats
  /-- Whether targets are taken in reading order instead of as listed. -/
  reorder : Bool
  /-- Whether numbers from zero on show a plus sign. -/
  showPlus : Bool
  deriving DecidableEq

namespace Expression

/-- The fill of a sequence whose expression names none. -/
def defaultFill : Start → Char
  | .numeric _ => '0'
  | .alphabetic _ => ' '

/-- The sequence that begins at `start` and moves forward one by one, shown without padding. -/
def ofStart (start : Start) : Expression where
  start := start
  operator := .add
  step := 1
  offset := 0
  radix := 10
  fill := defaultFill start
  width := 0
  repeats := 1
  repeats_pos := by decide
  reorder := false
  showPlus := false

/-- The place of an index in the sequence of distinct values. -/
def effectiveIndex (expression : Expression) (index : Nat) : Nat :=
  index / expression.repeats

end Expression

end Numbering
