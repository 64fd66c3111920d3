import Numbering.Proofs.Expression.Number
import Numbering.Proofs.Expression.RoundTrip

/-! # Values that are read again

In decimal, filled with zeros and without plus signs, a number is shown as a start is written: a minus
sign if there is one, zeros, and digits. Read as an expression, the text gives the number back, and
its zeros ask for the width that they fill, so the first value of that expression is the text itself. A
number that is no signed word is refused with its text (`read_valueAt_numeric`).
-/

namespace Numbering.Expression

open Numeral (FitsLongWord FitsWord decimal)

variable {expression : Expression} {alphabet : Alphabet} {start number : Int} {index : Nat}

/-- Whether numbers are shown as they are written at the start of an expression. -/
structure ShowsStarts (expression : Expression) : Prop where
  decimal : expression.radix = 10
  zeros : expression.fill = '0'
  noPlus : expression.showPlus = false

/-! ## A shown number as a start -/

/-- The zeros and the digits that a number is shown with in a width. -/
def filledDecimal (width : Nat) (number : Int) : Text :=
  List.replicate (width - (decimal number.natAbs).length) '0' ++ decimal number.natAbs

/-- A number in a width as a start. -/
def filledPart (width : Nat) (number : Int) : StartPart :=
  .numeral (if number < 0 then some '-' else none) (filledDecimal width number)

theorem showNumber_eq_text (shows : expression.ShowsStarts) (number : Int) :
    expression.showNumber number = (filledPart expression.width number).text := by
  have numeral : Numeral.IsNumeral expression.radix number.natAbs
      (Numeral.places 10 (by decide) number.natAbs) := by
    rw [shows.decimal]
    exact Numeral.isNumeral_places (by decide) number.natAbs
  have sign : expression.shownSign number = (if number < 0 then some '-' else none).toList := by
    rw [shownSign, shows.noPlus, if_neg Bool.false_ne_true]
    split_ifs <;> rfl
  rw [showNumber_eq (by rw [shows.decimal]; decide) (by rw [shows.decimal]; decide) numeral, sign,
    shows.zeros, List.append_assoc, filledPart, StartPart.text, filledDecimal, decimal,
    List.length_map]

theorem wellFormed_filledPart (width : Nat) (number : Int) :
    (filledPart width number).WellFormed := by
  refine ⟨fun c sign => .inr ?_, by simp [filledDecimal, Numeral.decimal_ne_nil], fun c member => ?_⟩
  · split_ifs at sign with negative
    · exact (Option.some.inj sign).symm
    · cases sign
  · rcases List.mem_append.mp member with zero | digit
    · rw [List.eq_of_mem_replicate zero]
      decide
    · exact Numeral.isDigit_of_mem_decimal digit

theorem value_filledPart (width : Nat) (number : Int) :
    (filledPart width number).value = .numeric number := by
  have plain := Start.value_part (.numeric number)
  rw [Start.part, StartPart.value, signedValue] at plain
  rwa [filledPart, StartPart.value, signedValue, filledDecimal, Numeral.readDecimal_zeros_append]

/-- The zeros of a number ask for a width that shows as many of them again. -/
theorem filledPart_impliedWidth (width : Nat) (number : Int) :
    filledPart (Parts.impliedWidth (filledPart width number)) number = filledPart width number := by
  have zeros : Parts.impliedWidth (filledPart width number) - (decimal number.natAbs).length =
      width - (decimal number.natAbs).length := by
    simp only [filledPart, Parts.impliedWidth, filledDecimal]
    cases width - (decimal number.natAbs).length with
    | zero => split_ifs <;> simp
    | succ more =>
      simp only [List.replicate_succ, List.cons_append, List.head?_cons, ↓reduceIte,
        List.length_cons, List.length_append, List.length_replicate]
      omega
  have filled : filledDecimal (Parts.impliedWidth (filledPart width number)) number =
      filledDecimal width number := by
    rw [filledDecimal, zeros, filledDecimal]
  rw [filledPart, filled, filledPart]

/-- A shown number is read as the sequence from it, or refused with its text. -/
theorem read_showNumber (shows : expression.ShowsStarts) (alphabet : Alphabet) (number : Int) :
    read alphabet (expression.showNumber number) =
      if FitsWord number then
        .ok { ofStart (.numeric number) with
          width := Parts.impliedWidth (filledPart expression.width number) }
      else .error (.outOfRange .start (expression.showNumber number)) := by
  have value := value_filledPart expression.width number
  have fault : (filledPart expression.width number).fault alphabet =
      if FitsWord number then none
      else some (.outOfRange .start (filledPart expression.width number).text) := by
    rw [filledPart, StartPart.value, Start.numeric.injEq] at value
    rw [filledPart, StartPart.fault, value]
    rfl
  rw [showNumber_eq_text shows, read_start alphabet (wellFormed_filledPart _ _), fault, value]
  split_ifs <;> rfl

theorem showsStarts_ofStart (number : Int) (width : Nat) :
    { ofStart (.numeric number) with width := width }.ShowsStarts :=
  ⟨rfl, rfl, rfl⟩

/-! ## Values -/

/-- A number between the signed words is not too far from a start between them. -/
theorem numberAt_eq_showNumber_of_fits (fits : FitsWord start)
    (fits' : FitsWord (expression.exactValue start index)) :
    expression.numberAt start index =
      expression.showNumber (expression.exactValue start index) := by
  have moved := exactValue_eq expression start index
  obtain ⟨low, high⟩ := fits
  obtain ⟨low', high'⟩ := fits'
  have near : expression.distance index ≤ 2 ^ 127 - 1 := by
    cases direction : expression.operator <;>
      simp only [direction, Operator.sign] at moved <;> omega
  have long : FitsLongWord (expression.exactValue start index) := by
    unfold FitsLongWord
    omega
  rw [numberAt_eq, if_pos ⟨near, long⟩]

theorem valueAt_zero_of_read (alphabet : Alphabet) (fits : FitsWord number) (width : Nat) :
    { ofStart (.numeric number) with width := width }.valueAt alphabet 0 =
      { ofStart (.numeric number) with width := width }.showNumber number := by
  have exact : { ofStart (.numeric number) with width := width }.exactValue number 0 = number := by
    simp [exactValue, distance, ofStart]
  have shown := numberAt_eq_showNumber_of_fits fits (exact.symm ▸ fits)
  rw [exact] at shown
  exact shown

/-- In decimal, filled with zeros and without plus signs, a value that is a signed word is read as a
sequence from the exact value whose first value is the text that was read; any other value that is
not empty is refused as a start that does not fit, with the text as it stands. -/
theorem read_valueAt_numeric (expression : Expression) (shows : expression.ShowsStarts)
    (numeric : expression.start = .numeric start) (fits : FitsWord start)
    (alphabet other : Alphabet) (index : Nat) :
    (FitsWord (expression.exactValue start index) → ∃ again,
      read other (expression.valueAt alphabet index) = .ok again ∧
        again.start = .numeric (expression.exactValue start index) ∧
        again.valueAt other 0 = expression.valueAt alphabet index) ∧
      (¬ FitsWord (expression.exactValue start index) → expression.valueAt alphabet index ≠ [] →
        read other (expression.valueAt alphabet index) =
          .error (.outOfRange .start (expression.valueAt alphabet index))) := by
  have value : expression.valueAt alphabet index = expression.numberAt start index := by
    rw [valueAt, numeric]
  rw [value]
  constructor
  · intro inside
    rw [numberAt_eq_showNumber_of_fits fits inside, read_showNumber shows, if_pos inside]
    refine ⟨_, rfl, rfl, ?_⟩
    rw [valueAt_zero_of_read other inside, showNumber_eq_text (showsStarts_ofStart _ _),
      showNumber_eq_text shows]
    exact congrArg StartPart.text (filledPart_impliedWidth ..)
  · intro outside shown
    rw [numberAt_eq_showNumber shown, read_showNumber shows, if_neg outside]

/-- Steps as wide as the signed words reach, from minus five in a width of three. -/
def leaps : Expression :=
  { ofStart (.numeric (-5)) with width := 3, step := 0x7FFFFFFFFFFFFFFF }

/-- The first value is read again with its zeros, the third is beyond the words. -/
theorem read_valueAt_numeric_leaps :
    leaps.valueAt .latin 0 = "-005".toList ∧
      leaps.valueAt .latin 2 = "18446744073709551609".toList ∧
      (∃ again, read .latin "-005".toList = .ok again ∧ again.start = .numeric (-5) ∧
        again.valueAt .latin 0 = "-005".toList) ∧
      read .latin "18446744073709551609".toList =
        .error (.outOfRange .start "18446744073709551609".toList) := by
  have first : leaps.valueAt .latin 0 = "-005".toList := by decide +kernel
  have third : leaps.valueAt .latin 2 = "18446744073709551609".toList := by decide +kernel
  have reads (index : Nat) := read_valueAt_numeric leaps ⟨rfl, rfl, rfl⟩ rfl (by decide) .latin
    .latin index
  have inside := (reads 0).1 (by decide)
  have outside := (reads 2).2 (by decide) (third ▸ by decide)
  rw [first] at inside
  rw [third] at outside
  exact ⟨first, third, inside, outside⟩

end Numbering.Expression
