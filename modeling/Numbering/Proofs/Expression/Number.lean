import Numbering.Proofs.Expression.Distance
import Numbering.Proofs.Numeral.Radix
import Numbering.Proofs.Text.Padding

/-! # Values of numeric sequences

The exact value at an index is the start moved by a distance, in integers without a limit. The
value that is shown is empty exactly if the distance or the exact value does not fit a signed
128-bit word, and otherwise it is the exact value's sign, padding and numeral (`valueAt_numeric`).
Nothing wraps: where two values of a sequence padded with zeros are shown, reading them back gives
the exact ones.
-/

namespace Numbering.Expression

open Numeral (FitsLongWord IsNumeral digitChar longWord? places readInteger?)

variable {expression : Expression} {start : Int} {index : Nat}

/-- The value of a numeric sequence at an index, without a limit on its size. -/
def exactValue (expression : Expression) (start : Int) (index : Nat) : Int :=
  match expression.operator with
  | .add => start + expression.distance index
  | .subtract => start - expression.distance index

def shownSign (expression : Expression) (number : Int) : Text :=
  if number < 0 then ['-'] else if expression.showPlus then ['+'] else []

theorem exactValue_eq (expression : Expression) (start : Int) (index : Nat) :
    expression.exactValue start index =
      start + expression.distance index * expression.operator.sign := by
  unfold exactValue
  cases expression.operator with
  | add => simp [Operator.sign]
  | subtract =>
    simp only [Operator.sign]
    omega

/-- A value is shown if its distance and its exact value fit the words. -/
theorem numberAt_eq (expression : Expression) (start : Int) (index : Nat) :
    expression.numberAt start index =
      if expression.distance index ≤ 2 ^ 127 - 1 ∧
          FitsLongWord (expression.exactValue start index) then
        expression.showNumber (expression.exactValue start index)
      else [] := by
  rw [numberAt, displacement?_eq, exactValue_eq]
  by_cases near : expression.distance index ≤ 2 ^ 127 - 1
  · rw [if_pos near, Option.bind_some, longWord?]
    by_cases fits : FitsLongWord (start + expression.distance index * expression.operator.sign)
    · rw [if_pos fits, if_pos ⟨near, fits⟩]
    · rw [if_neg fits, if_neg fun both => fits both.2]
  · rw [if_neg near, if_neg fun both => near both.1]
    rfl

theorem showNumber_eq {digits : List Nat} {number : Int} (wide : 2 ≤ expression.radix)
    (narrow : expression.radix ≤ 36) (numeral : IsNumeral expression.radix number.natAbs digits) :
    expression.showNumber number =
      expression.shownSign number ++
        List.replicate (expression.width - digits.length) expression.fill ++
        digits.map digitChar := by
  have written : Numeral.toRadix? expression.radix number.natAbs = some (digits.map digitChar) := by
    rw [Numeral.toRadix?, dif_pos ⟨wide, narrow⟩, numeral.eq_places wide]
  have signed : expression.shownSign number = [] ∨ expression.shownSign number = ['+'] ∨
      expression.shownSign number = ['-'] := by
    unfold shownSign
    split_ifs <;> simp
  rw [showNumber, written]
  change Text.padSigned _ _ (expression.shownSign number ++ _) = _
  rw [Text.padSigned_append signed (Numeral.unsigned_map_digitChar narrow numeral.small),
    Text.padLeft, List.length_map, List.append_assoc]

theorem showNumber_ne_nil (wide : 2 ≤ expression.radix) (narrow : expression.radix ≤ 36)
    (number : Int) : expression.showNumber number ≠ [] := by
  have numeral := Numeral.isNumeral_places wide number.natAbs
  rw [showNumber_eq wide narrow numeral]
  simp [numeral.filled]

theorem numberAt_eq_nil_iff (wide : 2 ≤ expression.radix) (narrow : expression.radix ≤ 36) :
    expression.numberAt start index = [] ↔
      2 ^ 127 - 1 < expression.distance index ∨
        ¬ FitsLongWord (expression.exactValue start index) := by
  rw [numberAt_eq]
  split_ifs with shown
  · exact iff_of_false (showNumber_ne_nil wide narrow _)
      fun outside => outside.elim (Nat.not_lt.mpr shown.1) (· shown.2)
  · refine iff_of_true rfl ?_
    by_cases near : expression.distance index ≤ 2 ^ 127 - 1
    · exact .inr fun fits => shown ⟨near, fits⟩
    · exact .inl (Nat.lt_of_not_le near)

theorem numberAt_eq_showNumber (shown : expression.numberAt start index ≠ []) :
    expression.numberAt start index =
      expression.showNumber (expression.exactValue start index) := by
  rw [numberAt_eq] at shown ⊢
  split_ifs at shown ⊢
  · rfl
  · exact absurd rfl shown

/-- A start alone counts up from its number in decimal. -/
theorem valueAt_ofStart (alphabet : Alphabet) (near : index ≤ 2 ^ 127 - 1)
    (fits : FitsLongWord (start + index)) :
    (ofStart (.numeric start)).valueAt alphabet index = Numeral.decimalInt (start + index) := by
  have distance : (ofStart (.numeric start)).distance index = index := by
    simp [Expression.distance, ofStart]
  have exact : (ofStart (.numeric start)).exactValue start index = start + index := by
    rw [exactValue, distance]
    rfl
  have numeral := Numeral.isNumeral_places (show 2 ≤ 10 by decide) (start + index).natAbs
  have shown : (ofStart (.numeric start)).showNumber (start + index) =
      Numeral.decimalInt (start + index) := by
    rw [showNumber_eq (show 2 ≤ 10 by decide) (show 10 ≤ 36 by decide) numeral,
      Numeral.decimalInt, Numeral.decimal]
    by_cases below : start + index < 0 <;> simp [shownSign, ofStart, below]
  change (ofStart (.numeric start)).numberAt start index = _
  rw [numberAt_eq, distance, exact, if_pos ⟨near, fits⟩, shown]

/-- Its values are single digits up to nine. -/
theorem values_ofStart_digits (alphabet : Alphabet) {digit count : Nat} (low : digit + count ≤ 10) :
    (ofStart (.numeric digit)).values alphabet count =
      (List.range count).map fun index => [digitChar (digit + index)] := by
  apply List.map_congr_left
  intro index inside
  have below := List.mem_range.mp inside
  have fits : FitsLongWord (digit + index : Nat) := by
    unfold FitsLongWord
    omega
  rw [valueAt_ofStart alphabet (by omega) (by exact_mod_cast fits), ← Int.natCast_add,
    Numeral.decimalInt, if_neg (by omega), Int.natAbs_natCast, Numeral.decimal_of_lt (by omega)]

theorem readInteger?_showNumber (wide : 2 ≤ expression.radix) (narrow : expression.radix ≤ 36)
    (zeros : expression.fill = '0') (number : Int) :
    readInteger? expression.radix (expression.showNumber number) = some number := by
  have numeral := Numeral.isNumeral_places wide number.natAbs
  rw [showNumber_eq wide narrow numeral, zeros, shownSign]
  exact Numeral.readInteger?_signed narrow numeral _ _

theorem exactValue_next {next : Nat}
    (follows : expression.effectiveIndex next = expression.effectiveIndex index + 1) :
    expression.exactValue start next =
      expression.exactValue start index + expression.operator.sign * expression.step := by
  have further : expression.distance next = expression.distance index + expression.step := by
    unfold effectiveIndex at follows
    rw [distance, distance, follows, ← Nat.add_assoc, Nat.add_mul, Nat.one_mul]
  rw [exactValue_eq, exactValue_eq, further, Int.natCast_add, Int.add_mul, ← Int.add_assoc,
    Int.mul_comm expression.operator.sign]

/-- The value of a numeric sequence is empty exactly if the distance or the exact value does not fit
a signed 128-bit word, and otherwise it is the sign, the padding and the one numeral of the exact
value. Padded with zeros, it is read back as the exact value, and neighbours differ by one step. -/
theorem valueAt_numeric (expression : Expression) (alphabet : Alphabet) {start : Int}
    (numeric : expression.start = .numeric start) (wide : 2 ≤ expression.radix)
    (narrow : expression.radix ≤ 36) (index : Nat) :
    (expression.valueAt alphabet index = [] ↔
      2 ^ 127 - 1 < expression.distance index ∨
        ¬ FitsLongWord (expression.exactValue start index)) ∧
      (expression.valueAt alphabet index ≠ [] →
        ∃ digits,
          (∀ other, IsNumeral expression.radix (expression.exactValue start index).natAbs other ↔
            other = digits) ∧
          expression.valueAt alphabet index =
            expression.shownSign (expression.exactValue start index) ++
              List.replicate (expression.width - digits.length) expression.fill ++
              digits.map digitChar) ∧
      (expression.fill = '0' → expression.valueAt alphabet index ≠ [] →
        readInteger? expression.radix (expression.valueAt alphabet index) =
            some (expression.exactValue start index) ∧
          ∀ next, expression.effectiveIndex next = expression.effectiveIndex index + 1 →
            expression.valueAt alphabet next ≠ [] →
            readInteger? expression.radix (expression.valueAt alphabet next) =
              some (expression.exactValue start index +
                expression.operator.sign * expression.step)) := by
  have value (place : Nat) : expression.valueAt alphabet place = expression.numberAt start place := by
    rw [valueAt, numeric]
  simp only [value]
  have reads (zeros : expression.fill = '0') {place : Nat}
      (shown : expression.numberAt start place ≠ []) :
      readInteger? expression.radix (expression.numberAt start place) =
        some (expression.exactValue start place) := by
    rw [numberAt_eq_showNumber shown]
    exact readInteger?_showNumber wide narrow zeros _
  refine ⟨numberAt_eq_nil_iff wide narrow, fun shown => ?_, fun zeros shown => ?_⟩
  · refine ⟨places expression.radix wide _, Numeral.isNumeral_iff wide _, ?_⟩
    rw [numberAt_eq_showNumber shown]
    exact showNumber_eq wide narrow (Numeral.isNumeral_places wide _)
  · refine ⟨reads zeros shown, fun next follows shown' => ?_⟩
    rw [reads zeros shown', exactValue_next follows]

/-- Steps of seventeen down from one, in hexadecimal with at least four digits. -/
def downwards : Expression :=
  { ofStart (.numeric 1) with operator := .subtract, step := 17, radix := 16, width := 4 }

/-- A value below zero keeps its sign in front of the zeros that fill it. -/
theorem valueAt_numeric_downwards :
    downwards.valueAt .latin 1 = ['-', '0', '0', '1', '0'] ∧
      readInteger? 16 ['-', '0', '0', '1', '0'] = some (-16) := by
  have value : downwards.valueAt .latin 1 = ['-', '0', '0', '1', '0'] := by decide +kernel
  have shown : downwards.valueAt .latin 1 ≠ [] := by
    rw [value]
    decide
  have reads := ((valueAt_numeric downwards .latin rfl (by decide) (by decide) 1).2.2 rfl shown).1
  rw [value] at reads
  exact ⟨value, reads⟩

end Numbering.Expression
