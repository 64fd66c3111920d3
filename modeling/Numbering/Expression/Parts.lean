import Numbering.Character.Alphabetic
import Numbering.Expression
import Numbering.Numeral

/-! # The written parts of an expression

An expression is written as

    START [OP] [STEP] [MODE] [':' PAD] [('/' | '^') REPEAT] [FLAGS]

with white space allowed at both ends and before every part but the padding. `START` is an optional
sign and digits, or letters by the older edition that `Character.isWordLetter` goes by; `OP` is `++`,
`--`, `+` or `-`; `STEP` and `REPEAT` are digits; `MODE` is `#` and digits, or a single `a` or `A`; `PAD` is
digits, before which a fill of at most one character may stand, closed by `>`; `FLAGS` is any run of
`!` and `@`. Digits are ASCII.

`Parts.scan?` takes each part as long as it can be, from left to right. No part has to be given
back: what may follow a part never begins with a character that the part could go on with, and the
one part that shares characters with its follower, the fill, is told apart by the `>` after it.
-/

namespace Numbering

inductive StartPart
  | numeral (sign : Option Char) (digits : Text)
  | word (letters : Text)
  deriving DecidableEq, Repr

/-- An operator as it is written: a doubled one takes the step for an offset. -/
inductive OperatorPart
  | plusPlus
  | minusMinus
  | plus
  | minus
  deriving DecidableEq, Repr

/-- Whether an operator is doubled, so that its number is an offset. -/
def OperatorPart.isDoubled : OperatorPart → Bool
  | .plusPlus => true
  | .minusMinus => true
  | .plus => false
  | .minus => false

/-- The direction that an operator gives. -/
def OperatorPart.direction : OperatorPart → Operator
  | .plusPlus => .add
  | .minusMinus => .subtract
  | .plus => .add
  | .minus => .subtract

/-- A mode as it is written: a radix, or the marker of a letter sequence. -/
inductive ModePart
  | radix (digits : Text)
  | marker
  deriving DecidableEq, Repr

structure PadPart where
  fill : Option Char
  width : Text
  deriving DecidableEq, Repr

/-- The parts of an expression as they are written; `flags` is empty if there are none. -/
structure Parts where
  start : StartPart
  operator : Option OperatorPart
  step : Option Text
  mode : Option ModePart
  pad : Option PadPart
  repeats : Option Text
  flags : Text
  deriving DecidableEq, Repr

namespace Parts

def scanDigits? (text : Text) : Option (Text × Text) :=
  match Numeral.spanDigits text with
  | ([], _) => none
  | (digits, rest) => some (digits, rest)

/-- A numeral with an optional sign at the start of a text. -/
def scanNumeral? : Text → Option (StartPart × Text)
  | '+' :: rest => (scanDigits? rest).map fun (digits, rest) => (.numeral (some '+') digits, rest)
  | '-' :: rest => (scanDigits? rest).map fun (digits, rest) => (.numeral (some '-') digits, rest)
  | text => (scanDigits? text).map fun (digits, rest) => (.numeral none digits, rest)

/-- One or more letters at the start of a text. -/
def scanWord? (text : Text) : Option (StartPart × Text) :=
  match text.takeWhile Character.isWordLetter with
  | [] => none
  | letters => some (.word letters, text.dropWhile Character.isWordLetter)

def scanStart? (text : Text) : Option (StartPart × Text) :=
  scanNumeral? text <|> scanWord? text

def scanOperator : Text → Option OperatorPart × Text
  | '+' :: '+' :: rest => (some .plusPlus, rest)
  | '-' :: '-' :: rest => (some .minusMinus, rest)
  | '+' :: rest => (some .plus, rest)
  | '-' :: rest => (some .minus, rest)
  | text => (none, text)

def scanOptionalDigits (text : Text) : Option Text × Text :=
  match scanDigits? text with
  | some (digits, rest) => (some digits, rest)
  | none => (none, text)

def scanMode : Text → Option ModePart × Text
  | '#' :: rest =>
    match scanDigits? rest with
    | some (digits, rest) => (some (.radix digits), rest)
    | none => (none, '#' :: rest)
  | 'a' :: rest => (some .marker, rest)
  | 'A' :: rest => (some .marker, rest)
  | text => (none, text)

/-- The fill before a width; `>` alone leaves the fill open. -/
def scanFill : Text → Option Char × Text
  | '>' :: rest => (none, rest)
  | c :: '>' :: rest => (some c, rest)
  | text => (none, text)

def scanPad : Text → Option PadPart × Text
  | ':' :: rest =>
    let (fill, body) := scanFill rest
    match scanDigits? body with
    | some (width, rest) => (some ⟨fill, width⟩, rest)
    | none => (none, ':' :: rest)
  | text => (none, text)

def scanCount (mark : Char) (rest : Text) : Option Text × Text :=
  match scanDigits? (Text.skipBlank rest) with
  | some (digits, rest) => (some digits, rest)
  | none => (none, mark :: rest)

def scanRepeats : Text → Option Text × Text
  | '/' :: rest => scanCount '/' rest
  | '^' :: rest => scanCount '^' rest
  | text => (none, text)

def isFlag (c : Char) : Bool :=
  c == '!' || c == '@'

/-- The parts of a text, or nothing if the text is not written in this form. -/
def scan? (text : Text) : Option Parts := do
  let (start, rest) ← scanStart? (Text.skipBlank text)
  let (operator, rest) := scanOperator (Text.skipBlank rest)
  let (step, rest) := scanOptionalDigits (Text.skipBlank rest)
  let (mode, rest) := scanMode (Text.skipBlank rest)
  let (pad, rest) := scanPad rest
  let (repeats, rest) := scanRepeats (Text.skipBlank rest)
  let flagged := Text.skipBlank rest
  let flags := flagged.takeWhile isFlag
  if (Text.skipBlank (flagged.dropWhile isFlag)).isEmpty then
    some ⟨start, operator, step, mode, pad, repeats, flags⟩
  else none

end Parts

end Numbering
