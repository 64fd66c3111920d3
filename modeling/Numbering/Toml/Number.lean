import Numbering.Toml.Value

/-! # Numbers and truth values of a document

Integers are signed 64-bit words, in decimal with an optional sign or in hexadecimal, octal or
binary without one. A number with a fraction or an exponent is a binary floating-point number; one
that is too large is refused. Underscores may stand between digits, and a decimal has no leading
zero.
-/

namespace Numbering.Toml

/-- The digits of a run in which single underscores may stand between digits. -/
def ungroup? (isDigit : Char → Bool) : Text → Option Text
  | [] => none
  | [digit] => if isDigit digit then some [digit] else none
  | digit :: '_' :: rest =>
    if isDigit digit then (ungroup? isDigit rest).map (digit :: ·) else none
  | digit :: rest => if isDigit digit then (ungroup? isDigit rest).map (digit :: ·) else none

/-- The value of a digit in a base up to sixteen. -/
def digitValue (c : Char) : Nat :=
  if c.isDigit then c.toNat - '0'.toNat
  else if 'a' ≤ c then c.toNat - 'a'.toNat + 10
  else c.toNat - 'A'.toNat + 10

def isDigitIn (base : Nat) (c : Char) : Bool :=
  (c.isDigit || ('a' ≤ c && c ≤ 'f') || ('A' ≤ c && c ≤ 'F')) && digitValue c < base

/-- An integer, if a signed 64-bit word can hold it. -/
def wordValue? (number : Int) : Option Value :=
  if Numeral.FitsWord number then some (.integer number) else none

def basedInteger? (base : Nat) (digits : Text) : Option Value := do
  let digits ← ungroup? (isDigitIn base) digits
  wordValue? (Numeral.value base (digits.map digitValue))

def splitNegative : Text → Bool × Text
  | '-' :: rest => (true, rest)
  | '+' :: rest => (false, rest)
  | text => (false, text)

/-- The digits of a decimal whole part, which has no leading zero. -/
def wholeDigits? (text : Text) : Option Text := do
  let digits ← ungroup? Char.isDigit text
  if digits.head? = some '0' ∧ digits.length ≠ 1 then none else some digits

def decimalInteger? (negative : Bool) (text : Text) : Option Value := do
  let digits ← wholeDigits? text
  let size : Int := Numeral.readDecimal digits
  wordValue? (if negative then -size else size)

def exponent? (text : Text) : Option Int := do
  let (negative, digits) := splitNegative text
  let digits ← ungroup? Char.isDigit digits
  let size : Int := Numeral.readDecimal digits
  return if negative then -size else size

/-- A number with a fraction, an exponent or both. Only the positive infinity counts as too
large. -/
def decimalFloat? (negative : Bool) (text : Text) : Option Value := do
  let isExponentMark := fun (c : Char) => c == 'e' || c == 'E'
  let mantissa := text.takeWhile (!isExponentMark ·)
  let whole ← wholeDigits? (mantissa.takeWhile (· != '.'))
  let decimals ← match mantissa.dropWhile (· != '.') with
    | [] => some []
    | _ :: decimals => ungroup? Char.isDigit decimals
  let exponent ← match text.dropWhile (!isExponentMark ·) with
    | [] => some 0
    | _ :: written => exponent? written
  match Binary64.ofDecimal negative (Numeral.readDecimal (whole ++ decimals))
      (exponent - decimals.length) with
  | .infinite false => none
  | number => some (.float number)

def number? (token : Text) : Option Value :=
  match token with
  | '0' :: 'x' :: digits => basedInteger? 16 digits
  | '0' :: 'o' :: digits => basedInteger? 8 digits
  | '0' :: 'b' :: digits => basedInteger? 2 digits
  | _ =>
    let (negative, body) := splitNegative token
    if body = ['i', 'n', 'f'] then some (.float (.infinite negative))
    else if body = ['n', 'a', 'n'] then some (.float .nan)
    else if body.any fun c => c == '.' || c == 'e' || c == 'E' then decimalFloat? negative body
    else decimalInteger? negative body

/-- The number or truth value that a run of characters writes. -/
def plain? (token : Text) : Option Value :=
  if token = ['t', 'r', 'u', 'e'] then some (.boolean true)
  else if token = ['f', 'a', 'l', 's', 'e'] then some (.boolean false)
  else number? token

end Numbering.Toml
