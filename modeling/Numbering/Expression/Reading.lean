import Numbering.Alphabet
import Numbering.Expression
import Numbering.Expression.Parts

/-! # Reading an expression

Written parts become an expression once their numbers fit their fields and the parts agree with the
kind of the start. The checks run in a fixed order, and a text that fails several is refused for
the first: the start, the step, the radix and its kind, the marker, the width, the repeat.
-/

namespace Numbering

/-- The largest width that may be written. -/
def maxWidth : Nat := 4096

inductive NumberField
  | start
  | step
  | radix
  | width
  | repeats
  deriving DecidableEq, Repr

def NumberField.name : NumberField → String
  | .start => "start"
  | .step => "step"
  | .radix => "radix"
  | .width => "width"
  | .repeats => "repeat"

inductive Rejection
  | grammar
  | zeroRepeat
  | radixOutOfRange (radix : Nat)
  | radixOnLetters
  | markerOnNumber
  | letterOutsideAlphabet (letter : Char)
  | outOfRange (field : NumberField) (literal : Text)
  | widthTooLarge (width : Nat)
  deriving DecidableEq, Repr

def Rejection.message : Rejection → String
  | .grammar => "input does not match the sequence grammar"
  | .zeroRepeat => "repeat count must be at least 1"
  | .radixOutOfRange radix => s!"radix {radix} is outside 2..=36"
  | .radixOnLetters => "a numeric radix cannot be used with a letter start"
  | .markerOnNumber => "the alphabetic marker cannot be used with a numeric start"
  | .letterOutsideAlphabet letter => s!"'{letter}' is not a letter of the alphabet"
  | .outOfRange field literal =>
    let name := field.name
    let shown := String.ofList literal
    s!"{name} '{shown}' is too large"
  | .widthTooLarge width => s!"pad width {width} exceeds the maximum of {maxWidth}"

namespace Parts

/-- The number in a field, which the literal has to fit. -/
def readField (field : NumberField) (limit : Nat) (literal : Text) : Except Rejection Nat :=
  match Numeral.readDigits? limit literal with
  | some number => .ok number
  | none => .error (.outOfRange field literal)

def readOptional (field : NumberField) (limit : Nat) : Option Text → Except Rejection (Option Nat)
  | none => .ok none
  | some literal => (readField field limit literal).map some

/-- The start, whose number is a signed 64-bit word and whose letters belong to the alphabet. -/
def readStart (alphabet : Alphabet) : StartPart → Except Rejection Start
  | .numeral sign digits =>
    let size : Int := Numeral.readDecimal digits
    let number := if sign = some '-' then -size else size
    if Numeral.FitsWord number then .ok (.numeric number)
    else .error (.outOfRange .start (sign.toList ++ digits))
  | .word letters =>
    match letters.find? fun letter => !alphabet.contains letter with
    | some stray => .error (.letterOutsideAlphabet stray)
    | none => .ok (.alphabetic letters)

/-- The width that a numeral with a leading zero asks for: its number of digits. -/
def impliedWidth : StartPart → Nat
  | .numeral _ digits => if digits.head? = some '0' then digits.length else 0
  | .word _ => 0

/-- The radix of a sequence, ten unless a numeric start names another. -/
def readRadix (start : Start) : Option ModePart → Except Rejection Nat
  | some (.radix digits) => do
    let radix ← readField .radix Numeral.maxShortWord digits
    match start with
    | .alphabetic _ => .error .radixOnLetters
    | .numeric _ => if 2 ≤ radix ∧ radix ≤ 36 then .ok radix else .error (.radixOutOfRange radix)
  | some .marker =>
    match start with
    | .alphabetic _ => .ok 10
    | .numeric _ => .error .markerOnNumber
  | none => .ok 10

/-- The width, from the padding or else from the start. -/
def readWidth (parts : Parts) : Except Rejection Nat := do
  match ← readOptional .width Numeral.maxWord (parts.pad.map PadPart.width) with
  | some width => if maxWidth < width then .error (.widthTooLarge width) else .ok width
  | none => .ok (impliedWidth parts.start)

/-- The number of indices that share a value, at least one. -/
def readRepeats (repeats : Option Text) : Except Rejection { count : Nat // 0 < count } := do
  match ← readOptional .repeats Numeral.maxWord repeats with
  | none => .ok ⟨1, Nat.one_pos⟩
  | some count => if positive : 0 < count then .ok ⟨count, positive⟩ else .error .zeroRepeat

/-- The expression that parts stand for, or the first check that they fail. -/
def interpret (alphabet : Alphabet) (parts : Parts) : Except Rejection Expression := do
  let start ← readStart alphabet parts.start
  let number ← readOptional .step Numeral.maxWord parts.step
  let radix ← readRadix start parts.mode
  let width ← readWidth parts
  let repeats ← readRepeats parts.repeats
  let doubled := parts.operator.any OperatorPart.isDoubled
  return {
    start := start
    operator := (parts.operator.map OperatorPart.direction).getD .add
    step := if doubled then 1 else number.getD 1
    offset := if doubled then number.getD 0 else 0
    radix := radix
    fill := (parts.pad.bind PadPart.fill).getD (Expression.defaultFill start)
    width := width
    repeats := repeats.val
    repeats_pos := repeats.property
    reorder := parts.flags.contains '!'
    showPlus := parts.flags.contains '@' }

end Parts

/-- The expression that a text writes, or why it writes none. -/
def Expression.read (alphabet : Alphabet) (text : Text) : Except Rejection Expression :=
  match Parts.scan? text with
  | none => .error .grammar
  | some parts => parts.interpret alphabet

end Numbering
