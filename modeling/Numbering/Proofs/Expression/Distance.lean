import Mathlib.Tactic.Linarith
import Numbering.Expression.Value

/-! # The distance of a value from the start

An index moves a sequence by its place and the offset, times the step, in the direction of the
operator. This is a natural number without a limit; a displacement is what is left of it where it
fits the signed 128-bit words (`displacement?_eq`).
-/

namespace Numbering.Expression

open Numeral (FitsLongWord longWord?)

variable {expression : Expression} {index : Nat}

/-- How far the value at an index lies from the start. -/
def distance (expression : Expression) (index : Nat) : Nat :=
  (expression.offset + index / expression.repeats) * expression.step

theorem displacement?_eq (expression : Expression) (index : Nat) :
    expression.displacement? index =
      if expression.distance index ≤ 2 ^ 127 - 1 then
        some (expression.distance index * expression.operator.sign)
      else none := by
  have steps : ((expression.effectiveIndex index + expression.offset : Nat) : Int) *
      expression.step = expression.distance index := by
    rw [distance, effectiveIndex, Nat.add_comm, Int.natCast_mul]
  have fits : FitsLongWord (expression.distance index : Int) ↔
      expression.distance index ≤ 2 ^ 127 - 1 := by
    unfold FitsLongWord
    omega
  rw [displacement?]
  simp only [steps, longWord?, fits]
  split <;> rfl

theorem displacement?_eq_some_iff {count : Int} :
    expression.displacement? index = some count ↔
      expression.distance index ≤ 2 ^ 127 - 1 ∧
        count = expression.distance index * expression.operator.sign := by
  rw [displacement?_eq, Option.ite_none_right_eq_some, Option.some.injEq, eq_comm (a := count)]

theorem fitsLongWord_of_displacement? {count : Int}
    (moved : expression.displacement? index = some count) : FitsLongWord count := by
  obtain ⟨near, rfl⟩ := displacement?_eq_some_iff.mp moved
  unfold FitsLongWord
  cases expression.operator <;> simp only [Operator.sign] <;> omega

/-- A sequence that moves is equally far from the start at two indices exactly if they share one
value. -/
theorem distance_inj {other : Nat} (moves : 0 < expression.step) :
    expression.distance index = expression.distance other ↔
      index / expression.repeats = other / expression.repeats :=
  calc expression.distance index = expression.distance other
      ↔ expression.offset + index / expression.repeats =
          expression.offset + other / expression.repeats := Nat.mul_left_inj (Nat.ne_of_gt moves)
    _ ↔ index / expression.repeats = other / expression.repeats := Nat.add_left_cancel_iff

theorem Operator.sign_ne_zero (operator : Operator) : operator.sign ≠ 0 := by
  cases operator <;> decide

/-- Nor is it displaced alike at any others. -/
theorem displacement?_inj {other : Nat} {count count' : Int} (moves : 0 < expression.step)
    (moved : expression.displacement? index = some count)
    (moved' : expression.displacement? other = some count') :
    count = count' ↔ index / expression.repeats = other / expression.repeats := by
  obtain ⟨-, rfl⟩ := displacement?_eq_some_iff.mp moved
  obtain ⟨-, rfl⟩ := displacement?_eq_some_iff.mp moved'
  rw [mul_left_inj' (Operator.sign_ne_zero _), Nat.cast_inj, distance_inj moves]

/-- What an index and an offset do to a value is only to displace it. -/
theorem valueAt_of_displacement? (alphabet : Alphabet) {offset later : Nat}
    (same : { expression with offset := offset }.displacement? later =
      expression.displacement? index) :
    { expression with offset := offset }.valueAt alphabet later =
      expression.valueAt alphabet index := by
  simp only [valueAt, numberAt, wordAt, same]
  rfl

end Numbering.Expression
