import Numbering.Alphabet.Advance
import Numbering.Expression
import Numbering.Text.Casing

/-! # The values of a sequence

The value at an index depends on the index, the expression and the alphabet alone. A value that
cannot be formed is the empty text: a word that would fall below the first one, a number or a
distance outside the signed 128-bit words, a radix without enough digits.
-/

namespace Numbering.Expression

/-- The signed distance from the start to the value at an index; its size is a 128-bit word. -/
def displacement? (expression : Expression) (index : Nat) : Option Int := do
  let steps := expression.effectiveIndex index + expression.offset
  let distance ← Numeral.longWord? (steps * expression.step)
  return distance * expression.operator.sign

/-- A number in the expression's radix, with its sign and padding. -/
def showNumber (expression : Expression) (number : Int) : Text :=
  match Numeral.toRadix? expression.radix number.natAbs with
  | none => []
  | some digits =>
    let sign := if number < 0 then ['-'] else if expression.showPlus then ['+'] else []
    Text.padSigned expression.width expression.fill (sign ++ digits)

/-- The case of a word: that of its last letter, if the letter has one. -/
def likeLast (word letters : Text) : Text :=
  match word.getLast? with
  | none => letters
  | some last =>
    if Character.isUppercase last then Text.toUppercase letters
    else if Character.isLowercase last then Text.toLowercase letters
    else letters

/-- The value of a numeric sequence at an index. -/
def numberAt (expression : Expression) (start : Int) (index : Nat) : Text :=
  match (expression.displacement? index).bind fun distance =>
      Numeral.longWord? (start + distance) with
  | none => []
  | some number => expression.showNumber number

/-- The value of an alphabetic sequence at an index; an empty word is not padded. -/
def wordAt (expression : Expression) (alphabet : Alphabet) (start : Text) (index : Nat) : Text :=
  match expression.displacement? index with
  | none => []
  | some count =>
    match alphabet.advance start count with
    | [] => []
    | letters => Text.padLeft expression.width expression.fill (likeLast start letters)

/-- The value at an index. -/
def valueAt (expression : Expression) (alphabet : Alphabet) (index : Nat) : Text :=
  match expression.start with
  | .numeric start => expression.numberAt start index
  | .alphabetic start => expression.wordAt alphabet start index

def values (expression : Expression) (alphabet : Alphabet) (count : Nat) : List Text :=
  (List.range count).map (expression.valueAt alphabet)

end Numbering.Expression
