import Numbering.Text

/-! # Numerals

Numbers written in a base with the digits `0` to `9` and `a` to `z`, decimal literals read back,
and the limits of the machine words that the fields of an expression have to fit.

`places` never has a leading zero except for zero itself; `value_places` says that reading its
digits gives the number back.
-/

namespace Numbering.Numeral

/-- The largest unsigned 64-bit word. -/
def maxWord : Nat := 0xFFFFFFFFFFFFFFFF

/-- The largest unsigned 32-bit word. -/
def maxShortWord : Nat := 0xFFFFFFFF

/-- Whether an integer fits a signed 64-bit word. -/
def FitsWord (number : Int) : Prop :=
  -0x8000000000000000 ≤ number ∧ number ≤ 0x7FFFFFFFFFFFFFFF

instance (number : Int) : Decidable (FitsWord number) := by
  unfold FitsWord
  infer_instance

/-- Whether an integer fits a signed 128-bit word. -/
def FitsLongWord (number : Int) : Prop :=
  -0x80000000000000000000000000000000 ≤ number ∧
    number ≤ 0x7FFFFFFFFFFFFFFFFFFFFFFFFFFFFFFF

instance (number : Int) : Decidable (FitsLongWord number) := by
  unfold FitsLongWord
  infer_instance

/-- The integer, provided that a signed 128-bit word can hold it. -/
def longWord? (number : Int) : Option Int :=
  if FitsLongWord number then some number else none

theorem longWord?_eq_some_iff {number result : Int} :
    longWord? number = some result ↔ FitsLongWord number ∧ number = result := by
  simp [longWord?]

/-- The digits of a number in a base, most significant first; zero has one digit. -/
def places (base : Nat) (wide : 2 ≤ base) (number : Nat) : List Nat :=
  if number < base then [number]
  else places base wide (number / base) ++ [number % base]
termination_by number
decreasing_by exact Nat.div_lt_self (by omega) (by omega)

def value (base : Nat) (digits : List Nat) : Nat :=
  digits.foldl (fun number digit => number * base + digit) 0

/-- Reading the places of a number gives the number. -/
theorem value_places (base : Nat) (wide : 2 ≤ base) (number : Nat) :
    value base (places base wide number) = number := by
  fun_induction places base wide number with
  | case1 number small => simp [value]
  | case2 number large ih =>
    simp only [value, List.foldl_append, List.foldl_cons, List.foldl_nil] at ih ⊢
    rw [ih]
    exact Nat.div_add_mod' number base

/-- The character of a digit below thirty-six. -/
def digitChar (digit : Nat) : Char :=
  if digit < 10 then Char.ofNat ('0'.toNat + digit) else Char.ofNat ('a'.toNat + (digit - 10))

/-- A number in a radix from two to thirty-six, and nothing for any other radix. -/
def toRadix? (radix number : Nat) : Option Text :=
  if bounds : 2 ≤ radix ∧ radix ≤ 36 then some ((places radix bounds.1 number).map digitChar)
  else none

def decimal (number : Nat) : Text :=
  (places 10 (by decide) number).map digitChar

/-- An integer in decimal, with a minus sign if it is negative. -/
def decimalInt (number : Int) : Text :=
  if number < 0 then '-' :: decimal number.natAbs else decimal number.natAbs

def readDecimal (digits : Text) : Nat :=
  value 10 (digits.map fun c => c.toNat - '0'.toNat)

/-- The decimal digits at the start of a text, and the rest. -/
def spanDigits (text : Text) : Text × Text :=
  (text.takeWhile Char.isDigit, text.dropWhile Char.isDigit)

/-- One or more decimal digits and nothing else, for a number up to a limit. -/
def readDigits? (limit : Nat) (digits : Text) : Option Nat :=
  if digits ≠ [] ∧ digits.all Char.isDigit ∧ readDecimal digits ≤ limit then
    some (readDecimal digits)
  else none

/-- Decimal digits that a plus sign may precede, for a number up to a limit. -/
def readUnsigned? (limit : Nat) : Text → Option Nat
  | '+' :: digits => readDigits? limit digits
  | digits => readDigits? limit digits

end Numbering.Numeral
