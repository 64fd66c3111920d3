import Numbering.Expression
import Numbering.Text.Quoted

/-! # The structure of an expression in print

Two layouts of all fields of an expression in one order: an outline for reading, with quoted fills
and words, and an interchange object indented by two blanks.
-/

namespace Numbering.Expression

def boolName (value : Bool) : Text :=
  if value then "true".toList else "false".toList

def outlineField (name : String) (shown : Text) : Text :=
  "    ".toList ++ name.toList ++ ": ".toList ++ shown ++ ",\n".toList

/-- A kind with its value on a line of its own. -/
def outlineStart : Start → Text
  | .numeric number => wrap "Numeric" (Numeral.decimalInt number)
  | .alphabetic word => wrap "Alphabetic" (Text.quotePlain word)
where
  /-- The name of a kind around a value. -/
  wrap (kind : String) (shown : Text) : Text :=
    kind.toList ++ "(\n        ".toList ++ shown ++ ",\n    )".toList

def outlineOperator : Operator → Text
  | .add => "Add".toList
  | .subtract => "Subtract".toList

def outline (expression : Expression) : Text :=
  "Expression \x7b\n".toList ++
    outlineField "start" (outlineStart expression.start) ++
    outlineField "operator" (outlineOperator expression.operator) ++
    outlineField "step" (Numeral.decimal expression.step) ++
    outlineField "offset" (Numeral.decimal expression.offset) ++
    outlineField "radix" (Numeral.decimal expression.radix) ++
    outlineField "pad_char" (Text.quoteCharacter expression.fill) ++
    outlineField "pad_width" (Numeral.decimal expression.width) ++
    outlineField "repeat" (Numeral.decimal expression.repeats) ++
    outlineField "reorder" (boolName expression.reorder) ++
    outlineField "show_positive_sign" (boolName expression.showPlus) ++
    "\x7d".toList

def member (name : String) (shown : Text) : Text :=
  Text.quoteInterchange name.toList ++ ": ".toList ++ shown

/-- An interchange object at some depth of nesting, one member a line. -/
def object (depth : Nat) (members : List Text) : Text :=
  let inner := List.replicate (2 * (depth + 1)) ' '
  "\x7b\n".toList ++ Text.join ",\n".toList (members.map (inner ++ ·)) ++
    '\n' :: List.replicate (2 * depth) ' ' ++ "\x7d".toList

/-- A start as an interchange object. -/
def startObject : Start → Text
  | .numeric number =>
    object 1 [member "kind" (Text.quoteInterchange "numeric".toList),
      member "value" (Numeral.decimalInt number)]
  | .alphabetic word =>
    object 1 [member "kind" (Text.quoteInterchange "alphabetic".toList),
      member "value" (Text.quoteInterchange word)]

def operatorName : Operator → String
  | .add => "add"
  | .subtract => "subtract"

def interchange (expression : Expression) : Text :=
  object 0 [
    member "start" (startObject expression.start),
    member "operator" (Text.quoteInterchange (operatorName expression.operator).toList),
    member "step" (Numeral.decimal expression.step),
    member "offset" (Numeral.decimal expression.offset),
    member "radix" (Numeral.decimal expression.radix),
    member "pad_char" (Text.quoteInterchange [expression.fill]),
    member "pad_width" (Numeral.decimal expression.width),
    member "repeat" (Numeral.decimal expression.repeats),
    member "reorder" (boolName expression.reorder),
    member "show_positive_sign" (boolName expression.showPlus)]

end Numbering.Expression
