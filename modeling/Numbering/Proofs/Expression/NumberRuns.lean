import Numbering.Proofs.Expression.Number

/-! # Runs of equal numbers

Two numbers are never shown alike in one sequence, whatever its width. The digits of a number are
those characters of its text that are digits of the radix, unless the fill is such a digit itself;
sign and fill are what is left, so the text gives the number back (`showNumber_inj`). Zeros as the fill
are read as part of the numeral. Values of a sequence that moves are therefore equal exactly at the
indices of one run (`valueAt_numeric_eq_iff_same_run`).
-/

namespace Numbering.Expression

open Numeral (IsNumeral digit? digitChar)

variable {expression : Expression} {start number other : Int} {index : Nat}

/-! ## Numbers from their texts -/

/-- A fill that no number can be mistaken for: zero, or what is not a digit of the radix. -/
def PlainFill (expression : Expression) : Prop :=
  expression.fill = '0' ∨ digit? expression.radix expression.fill = none

instance (expression : Expression) : Decidable expression.PlainFill := by
  unfold PlainFill
  infer_instance

theorem digit?_of_mem_shownSign {c : Char} (member : c ∈ expression.shownSign number) :
    digit? expression.radix c = none := by
  have signs : ∀ radix, digit? radix '-' = none ∧ digit? radix '+' = none := fun _ => ⟨rfl, rfl⟩
  unfold shownSign at member
  split_ifs at member
  · rw [List.mem_singleton.mp member, (signs _).1]
  · rw [List.mem_singleton.mp member, (signs _).2]
  · cases member

/-- The digits in the text of a number are its numeral, if the fill is none of them. -/
theorem filterMap_digit?_showNumber {digits : List Nat} (wide : 2 ≤ expression.radix)
    (narrow : expression.radix ≤ 36) (bare : digit? expression.radix expression.fill = none)
    (numeral : IsNumeral expression.radix number.natAbs digits) :
    (expression.showNumber number).filterMap (digit? expression.radix) = digits := by
  have sign : (expression.shownSign number).filterMap (digit? expression.radix) = [] :=
    List.filterMap_eq_nil_iff.mpr fun _ member => digit?_of_mem_shownSign member
  have back : (digits.map digitChar).filterMap (digit? expression.radix) = digits := by
    rw [List.filterMap_map]
    refine (List.filterMap_congr fun digit member => ?_).trans List.filterMap_some
    exact Numeral.digit?_digitChar narrow (numeral.small digit member)
  rw [showNumber_eq wide narrow numeral, List.filterMap_append, List.filterMap_append, sign,
    List.filterMap_replicate_of_none bare, back, List.nil_append, List.nil_append]

theorem shownSign_eq_minus_iff (expression : Expression) :
    expression.shownSign number = ['-'] ↔ number < 0 := by
  unfold shownSign
  split_ifs with negative plus <;> simp [negative]

theorem eq_of_shownSign_eq (size : number.natAbs = other.natAbs)
    (sign : expression.shownSign number = expression.shownSign other) : number = other := by
  have negative : number < 0 ↔ other < 0 := by
    rw [← shownSign_eq_minus_iff expression, sign, shownSign_eq_minus_iff]
  omega

/-- Different numbers are shown differently. -/
theorem showNumber_inj (wide : 2 ≤ expression.radix) (narrow : expression.radix ≤ 36)
    (plain : expression.PlainFill) :
    expression.showNumber number = expression.showNumber other ↔ number = other := by
  refine ⟨fun same => ?_, congrArg _⟩
  rcases plain with zeros | bare
  · have reads := readInteger?_showNumber wide narrow zeros number
    rw [same, readInteger?_showNumber wide narrow zeros other] at reads
    exact (Option.some.inj reads).symm
  · have numeral := Numeral.isNumeral_places wide number.natAbs
    have numeral' := Numeral.isNumeral_places wide other.natAbs
    have digits := congrArg (List.filterMap (digit? expression.radix)) same
    rw [filterMap_digit?_showNumber wide narrow bare numeral,
      filterMap_digit?_showNumber wide narrow bare numeral'] at digits
    have size : number.natAbs = other.natAbs := by
      rw [← numeral.sum, ← numeral'.sum, digits]
    rw [showNumber_eq wide narrow numeral, showNumber_eq wide narrow numeral', digits,
      List.append_cancel_right_eq, List.append_cancel_right_eq] at same
    exact eq_of_shownSign_eq size same

/-! ## Runs -/

theorem exactValue_inj {later : Nat} (moves : 0 < expression.step) :
    expression.exactValue start index = expression.exactValue start later ↔
      index / expression.repeats = later / expression.repeats := by
  rw [exactValue_eq, exactValue_eq, Int.add_right_inj,
    mul_left_inj' (Operator.sign_ne_zero _), Nat.cast_inj, distance_inj moves]

/-- The indices of a run share their value. -/
theorem valueAt_congr (alphabet : Alphabet) {later : Nat}
    (run : index / expression.repeats = later / expression.repeats) :
    expression.valueAt alphabet index = expression.valueAt alphabet later := by
  have same : expression.displacement? index = expression.displacement? later := by
    rw [displacement?_eq, displacement?_eq, distance, distance, run]
  exact valueAt_of_displacement? alphabet same

/-- Of a numeric sequence that moves, two values that are not empty are equal exactly if their
indices belong to one run. So the value at an index is had at all the indices of its run, as many as
the repeats are, and nowhere else. -/
theorem valueAt_numeric_eq_iff_same_run (expression : Expression) (alphabet : Alphabet)
    {start : Int} (numeric : expression.start = .numeric start) (wide : 2 ≤ expression.radix)
    (narrow : expression.radix ≤ 36) (moves : 0 < expression.step) (plain : expression.PlainFill)
    {index : Nat} (shown : expression.valueAt alphabet index ≠ []) :
    (∀ later, expression.valueAt alphabet later ≠ [] →
      (expression.valueAt alphabet index = expression.valueAt alphabet later ↔
        index / expression.repeats = later / expression.repeats)) ∧
      ∀ later, expression.valueAt alphabet index = expression.valueAt alphabet later ↔
        index / expression.repeats * expression.repeats ≤ later ∧
          later < index / expression.repeats * expression.repeats + expression.repeats := by
  have value (place : Nat) : expression.valueAt alphabet place = expression.numberAt start place := by
    rw [valueAt, numeric]
  have alike (later : Nat) (shown' : expression.valueAt alphabet later ≠ []) :
      expression.valueAt alphabet index = expression.valueAt alphabet later ↔
        index / expression.repeats = later / expression.repeats := by
    rw [value] at shown shown' ⊢
    rw [value, numberAt_eq_showNumber shown, numberAt_eq_showNumber shown',
      showNumber_inj wide narrow plain, exactValue_inj moves]
  refine ⟨alike, fun later => ?_⟩
  have within : later / expression.repeats = index / expression.repeats ↔
      index / expression.repeats * expression.repeats ≤ later ∧
        later < index / expression.repeats * expression.repeats + expression.repeats := by
    have positive := expression.repeats_pos
    rw [Nat.div_eq_iff positive]
    omega
  rw [← within]
  constructor
  · intro same
    exact ((alike later (same ▸ shown)).mp same).symm
  · exact fun run => valueAt_congr alphabet run.symm

/-- Pairs of numbers from five down by ten, filled with dashes. -/
def dashes : Expression :=
  { ofStart (.numeric 5) with
    operator := .subtract, step := 10, fill := '-', width := 2, repeats := 2,
    repeats_pos := by decide }

/-- Five and minus five stay apart, though the fill of the one is the sign of the other. -/
theorem valueAt_numeric_eq_iff_same_run_dashes :
    dashes.valueAt .latin 1 = ['-', '5'] ∧ dashes.valueAt .latin 2 = ['-', '-', '5'] ∧
      dashes.valueAt .latin 1 = dashes.valueAt .latin 0 ∧
      dashes.valueAt .latin 1 ≠ dashes.valueAt .latin 2 := by
  have first : dashes.valueAt .latin 1 = ['-', '5'] := by decide +kernel
  have second : dashes.valueAt .latin 2 = ['-', '-', '5'] := by decide +kernel
  have runs := (valueAt_numeric_eq_iff_same_run dashes .latin rfl (by decide) (by decide)
    (by decide) (by decide) (first ▸ List.cons_ne_nil _ _)).2
  exact ⟨first, second, (runs 0).mpr (by decide), fun same => absurd ((runs 2).mp same) (by decide)⟩

end Numbering.Expression
