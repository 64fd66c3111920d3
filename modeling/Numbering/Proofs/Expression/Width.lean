import Numbering.Proofs.Expression.Number
import Numbering.Proofs.Expression.Read

/-! # The width of what is read

A width that is written stays within `maxWidth`. The width that a numeral asks for by a leading zero
is not checked: it is the number of its digits, however many there are. So an expression is wider
than `maxWidth` exactly if its start is a numeral of more digits that begin with zero, with no padding
written (`maxWidth_lt_width_iff`), and every width can be had (`read_zeros`).
-/

namespace Numbering.Expression

variable {alphabet : Alphabet} {text : Text} {expression : Expression}

/-! ## What a width does to the values -/

/-- The same sequence shown without padding. -/
def unpadded (expression : Expression) : Expression :=
  { expression with width := 0 }

theorem length_showNumber_le (expression : Expression) (number : Int) :
    (expression.showNumber number).length ≤
      max (expression.unpadded.showNumber number).length (expression.width + 1) := by
  cases written : Numeral.toRadix? expression.radix number.natAbs with
  | none => simp [showNumber, written]
  | some digits =>
    let text := expression.shownSign number ++ digits
    have sign := Text.length_splitSign_le text
    have shown : expression.showNumber number =
        Text.padSigned expression.width expression.fill text := by
      rw [showNumber, written]
      rfl
    have bare : expression.unpadded.showNumber number = Text.padSigned 0 expression.fill text := by
      have written' : Numeral.toRadix? expression.unpadded.radix number.natAbs = some digits :=
        written
      rw [showNumber, written']
      rfl
    rw [shown, bare, Text.length_padSigned, Text.length_padSigned]
    omega

/-- Padding makes no value longer than the width and a sign. -/
theorem length_valueAt_le (expression : Expression) (alphabet : Alphabet) (index : Nat) :
    (expression.valueAt alphabet index).length ≤
      max (expression.unpadded.valueAt alphabet index).length (expression.width + 1) := by
  have same : expression.unpadded.displacement? index = expression.displacement? index := rfl
  cases start : expression.start with
  | numeric first =>
    have start' : expression.unpadded.start = .numeric first := start
    rw [valueAt, valueAt, start, start']
    simp only [numberAt, same]
    split
    · exact Nat.zero_le _
    · exact length_showNumber_le expression _
  | alphabetic word =>
    have start' : expression.unpadded.start = .alphabetic word := start
    rw [valueAt, valueAt, start, start']
    simp only [wordAt, same]
    cases moved : expression.displacement? index with
    | none => simp
    | some count =>
      cases advanced : alphabet.advance word count with
      | nil => simp [advanced]
      | cons letter rest =>
        simp only [advanced, unpadded, Text.length_padLeft]
        omega

/-! ## Digits alone as an expression -/

/-- Digits alone are read as the number they stand for, in the width that they ask for. -/
theorem read_digits (alphabet : Alphabet) {digits : Text} (formed : digits.IsDigits)
    (fits : Numeral.FitsWord (Numeral.readDecimal digits)) :
    read alphabet digits = .ok { ofStart (.numeric (Numeral.readDecimal digits)) with
      width := Parts.impliedWidth (.numeral none digits) } := by
  have free : (StartPart.numeral none digits).fault alphabet = none := if_pos fits
  have whole := read_start alphabet (show (StartPart.numeral none digits).WellFormed from
    ⟨by simp, formed⟩)
  rw [free] at whole
  exact whole

def fromZero (width : Nat) : Expression :=
  { ofStart (.numeric 0) with width := width }

/-- Any number of zeros is read as a zero of that width. -/
theorem read_zeros (alphabet : Alphabet) (more : Nat) :
    read alphabet (List.replicate (more + 1) '0') = .ok (fromZero (more + 1)) := by
  have formed : Text.IsDigits (List.replicate (more + 1) '0') := by
    refine ⟨by simp, fun c member => ?_⟩
    rw [List.eq_of_mem_replicate member]
    decide
  have zero : Numeral.readDecimal (List.replicate (more + 1) '0') = 0 := by
    have value := Numeral.readDecimal_zeros_append (more + 1) []
    rwa [List.append_nil] at value
  have width : Parts.impliedWidth (.numeral none (List.replicate (more + 1) '0')) = more + 1 := by
    simp [Parts.impliedWidth, List.replicate_succ]
  rw [read_digits alphabet formed (by rw [zero]; decide), zero, width]
  rfl

/-- The first value of such a sequence is padded to its width. -/
theorem valueAt_fromZero (alphabet : Alphabet) (more : Nat) :
    (fromZero (more + 1)).valueAt alphabet 0 = List.replicate (more + 1) '0' := by
  have exact : (fromZero (more + 1)).exactValue 0 0 = 0 := by
    simp [exactValue, distance, fromZero, ofStart]
  have near : (fromZero (more + 1)).distance 0 ≤ 2 ^ 127 - 1 := by
    simp [distance, fromZero, ofStart]
  have numeral : Numeral.IsNumeral (fromZero (more + 1)).radix (0 : Int).natAbs [0] :=
    ⟨by simp, by simp [fromZero, ofStart], by simp, by simp [Numeral.value]⟩
  have wide : 2 ≤ (fromZero (more + 1)).radix := by simp [fromZero, ofStart]
  have narrow : (fromZero (more + 1)).radix ≤ 36 := by simp [fromZero, ofStart]
  change (fromZero (more + 1)).numberAt 0 0 = _
  rw [numberAt_eq, exact, if_pos ⟨near, by decide⟩, showNumber_eq wide narrow numeral]
  exact (List.replicate_succ' (n := more)).symm

/-! ## Which widths are read -/

theorem width_le_of_pad {spelling : Spelling} (free : spelling.firstFault? alphabet = none)
    (denotes : spelling.Denotes expression) (padded : spelling.pad ≠ none) :
    expression.width ≤ maxWidth := by
  obtain ⟨pad, given⟩ := Option.ne_none_iff_exists'.mp padded
  have checked : spelling.widthTooLarge ∈ spelling.faults alphabet := by simp [Spelling.faults]
  have small : spelling.widthTooLarge = none := Spelling.eq_none_of_mem_faults free checked
  have width := denotes.width
  simp only [Spelling.widthDigits, given, Option.map_some, Option.getD_some] at width
  simp only [Spelling.widthTooLarge, Spelling.widthDigits, given, Option.map_some,
    Option.bind_some, ite_eq_right_iff, reduceCtorEq, imp_false, Nat.not_lt] at small
  rwa [width]

theorem width_eq_of_unpadded {spelling : Spelling} (denotes : spelling.Denotes expression)
    (none : spelling.pad = none) : expression.width = spelling.startWidth := by
  rw [denotes.width, Spelling.widthDigits, none]
  rfl

/-- An expression is wider than the largest width that may be written exactly if its start is a
numeral with a zero in front and more digits than that, and no padding is written. Its width is then
the number of these digits. The values are at most as long as the width and a sign, or as they are
without padding. -/
theorem maxWidth_lt_width_iff (reads : read alphabet text = .ok expression) :
    ∃ spelling : Spelling, spelling.IsReading text ∧
      (spelling.pad ≠ none → expression.width ≤ maxWidth) ∧
      (maxWidth < expression.width ↔ spelling.pad = none ∧ ∃ sign digits,
        spelling.start = .numeral sign digits ∧ digits.head? = some '0' ∧
          maxWidth < digits.length ∧ expression.width = digits.length) ∧
      ∀ index, (expression.valueAt alphabet index).length ≤
        max (expression.unpadded.valueAt alphabet index).length (expression.width + 1) := by
  obtain ⟨spelling, reading, free, denotes⟩ := exists_isReading_of_read reads
  refine ⟨spelling, reading, width_le_of_pad free denotes, ?_, length_valueAt_le expression alphabet⟩
  constructor
  · intro wide
    have unwritten : spelling.pad = none := by
      by_contra padded
      exact absurd (width_le_of_pad free denotes padded) (Nat.not_le.mpr wide)
    refine ⟨unwritten, ?_⟩
    have width := width_eq_of_unpadded denotes unwritten
    rw [Spelling.startWidth] at width
    split at width
    · rename_i sign digits start
      split at width
      · rename_i zero
        exact ⟨sign, digits, start, zero, width ▸ wide, width⟩
      · rw [width] at wide
        exact absurd wide (Nat.not_lt_zero _)
    · rw [width] at wide
      exact absurd wide (Nat.not_lt_zero _)
  · rintro ⟨-, sign, digits, -, -, wide, width⟩
    rwa [width]

/-- A start of 4097 zeros is too wide, so it is a numeral of more digits than may be asked for, with no
padding written. -/
theorem maxWidth_lt_width_iff_zeros :
    ∃ spelling : Spelling, spelling.IsReading (List.replicate 4097 '0') ∧
      spelling.pad = none ∧ ∃ sign digits, spelling.start = .numeral sign digits ∧
        digits.head? = some '0' ∧ maxWidth < digits.length ∧ 4097 = digits.length := by
  obtain ⟨spelling, reading, -, wide, -⟩ := maxWidth_lt_width_iff (read_zeros .latin 4096)
  exact ⟨spelling, reading, wide.mp (by decide)⟩

/-- The sequence of 4097 zeros is wider than any written width may be, and its first value is padded to
that width. -/
theorem maxWidth_lt_width_zeros :
    read .latin (List.replicate 4097 '0') = .ok (fromZero 4097) ∧ maxWidth < (fromZero 4097).width ∧
      ((fromZero 4097).valueAt .latin 0).length = 4097 ∧
      (fromZero 4097).unpadded.valueAt .latin 0 = ['0'] := by
  refine ⟨read_zeros .latin 4096, by decide, ?_, by decide +kernel⟩
  rw [valueAt_fromZero .latin 4096, List.length_replicate]

end Numbering.Expression
