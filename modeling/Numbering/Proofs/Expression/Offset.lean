import Numbering.Proofs.Expression.Distance
import Numbering.Proofs.Expression.Read

/-! # Offsets

Behind a doubled operator stands an offset, which counts distinct values. A sequence with an offset is the
one without it from a later index on, as many runs later as the offset says
(`valueAt_of_offset`). The same text with a single operator and a step of one writes the sequence
without the offset: the scanner finds the same parts behind the number, whatever they are.
-/

namespace Numbering

/-! ## The number behind an operator -/

namespace Parts

open Expression

variable {start : StartPart} {digits digits' suffix : Text}

/-- The end of a scan: what it finds behind a step. -/
def scanBehindStep? (start : StartPart) (operator : Option OperatorPart) (step : Option Text)
    (text : Text) : Option Parts :=
  let (mode, rest) := scanMode (Text.skipBlank text)
  Spelling.scanLast? start operator step mode rest

theorem scan?_stepped (formed : start.WellFormed) (operator : OperatorPart)
    (number : digits.IsDigits) (apart : ∀ c ∈ suffix.head?, c.isDigit = false) :
    scan? (start.text ++ (operator.text ++ (digits ++ suffix))) =
      scanBehindStep? start (some operator) (some digits) suffix := by
  have opens := opens_operator operator
  have digital := opens_digits number
  have ends : StartPart.Ends start (operator.text ++ (digits ++ suffix)) := by
    cases start <;> cases operator <;> simp [StartPart.Ends, OperatorPart.text] <;> decide
  have low : ∀ c ∈ (digits ++ suffix).head?, rank c < 6 := by
    obtain ⟨c, rest, rfl, ranked⟩ := digital
    intro d first
    obtain rfl : c = d := by simpa using first
    omega
  have stepped : scanOptionalDigits (digits ++ suffix) = (some digits, suffix) := by
    rw [scanOptionalDigits, scanDigits?_append number apart]
  have operated : scanOperator (operator.text ++ (digits ++ suffix)) =
      (some operator, digits ++ suffix) := scanOperator_typed (some operator) low
  rw [scan?, Spelling.skipBlank_start formed, scanStart?_append formed ends]
  simp only [Option.bind_eq_bind, Option.bind_some, skipBlank_of_opens opens, operated,
    skipBlank_of_opens digital, stepped]
  rfl

theorem scanBehindStep?_eq_map (operator operator' : Option OperatorPart) (step step' : Option Text)
    (text : Text) :
    scanBehindStep? start operator' step' text =
      (scanBehindStep? start operator step text).map fun parts =>
        { parts with operator := operator', step := step' } := by
  simp only [scanBehindStep?, Spelling.scanLast?]
  split <;> rfl

/-- With another operator and another number in front of them, a text has the same parts behind them. -/
theorem scan?_exchange (formed : start.WellFormed) (operator operator' : OperatorPart)
    (number : digits.IsDigits) (number' : digits'.IsDigits)
    (apart : ∀ c ∈ suffix.head?, c.isDigit = false) :
    scan? (start.text ++ (operator'.text ++ (digits' ++ suffix))) =
      (scan? (start.text ++ (operator.text ++ (digits ++ suffix)))).map fun parts =>
        { parts with operator := some operator', step := some digits' } := by
  rw [scan?_stepped formed operator' number' apart, scan?_stepped formed operator number apart]
  exact scanBehindStep?_eq_map ..

end Parts

/-! ## A step of one in place of the offset -/

/-- The same sequence from its first distinct value on. -/
def Expression.withoutOffset (expression : Expression) : Expression :=
  { expression with offset := 0 }

namespace Spelling

variable {spelling : Spelling} {operator : Operator} {digits : Text} {alphabet : Alphabet}
  {expression : Expression}

def steppingOne (spelling : Spelling) (operator : Operator) : Spelling :=
  { spelling with operator := some operator.part, step := some ['1'] }

theorem wellFormed_steppingOne (formed : spelling.WellFormed) (operator : Operator) :
    (spelling.steppingOne operator).WellFormed :=
  { formed with step := by simp [steppingOne, Text.IsDigits] }

theorem firstFault?_steppingOne (free : spelling.firstFault? alphabet = none) (operator : Operator) :
    (spelling.steppingOne operator).firstFault? alphabet = none := by
  rw [firstFault?, List.findSome?_eq_none_iff, faults, List.forall_mem_cons, List.forall_mem_cons]
    at free ⊢
  obtain ⟨start, -, behind⟩ := free
  have one : overflow .step Numeral.maxWord (some ['1']) = none := by decide
  exact ⟨start, one, behind⟩

theorem doubled_of_operator (doubled : spelling.operator = some operator.doubledPart) :
    spelling.Doubled := by
  cases operator
  · exact .inl doubled
  · exact .inr doubled

theorem not_doubled_steppingOne (spelling : Spelling) (operator : Operator) :
    ¬ (spelling.steppingOne operator).Doubled := by
  cases operator <;> simp [Doubled, steppingOne, Operator.part]

/-- The number behind a doubled operator is the offset, and nothing but the offset goes with it. -/
theorem denotes_steppingOne (denotes : spelling.Denotes expression)
    (doubled : spelling.operator = some operator.doubledPart) :
    (spelling.steppingOne operator).Denotes expression.withoutOffset :=
  { denotes with
    operator := by
      rw [Expression.withoutOffset, denotes.operator, doubled, steppingOne]
      simp [operator.text_part, operator.text_doubledPart]
    step := by
      rw [if_neg (not_doubled_steppingOne spelling operator)]
      exact denotes.step.trans (if_pos (doubled_of_operator doubled))
    offset := (if_neg (not_doubled_steppingOne spelling operator)).symm }

end Spelling

namespace Expression

variable {alphabet : Alphabet} {expression : Expression} {start : StartPart} {digits suffix : Text}

/-- A text with an offset and the one with a step of one in its place. -/
theorem read_steppingOne (formed : start.WellFormed) (operator : Operator)
    (number : digits.IsDigits) (apart : ∀ c ∈ suffix.head?, c.isDigit = false)
    (accepted : read alphabet (start.text ++ (operator.doubledPart.text ++ (digits ++ suffix))) =
      .ok expression) :
    expression.offset = Numeral.readDecimal digits ∧
      read alphabet (start.text ++ (operator.part.text ++ (['1'] ++ suffix))) =
        .ok expression.withoutOffset := by
  obtain ⟨spelling, reading, free, denotes⟩ := exists_isReading_of_read accepted
  have one : Text.IsDigits ['1'] := by simp [Text.IsDigits]
  have found := reading.scan?
  have found' := Parts.scan?_exchange formed operator.doubledPart operator.part number one apart
  rw [found, Option.map_some] at found'
  have typed := Parts.scan?_exchange formed operator.doubledPart operator.doubledPart number number apart
  rw [found, Option.map_some] at typed
  have doubled : spelling.operator = some operator.doubledPart :=
    congrArg Parts.operator (Option.some.inj typed)
  have stepped : spelling.step = some digits := congrArg Parts.step (Option.some.inj typed)
  refine ⟨?_, ?_⟩
  · rw [denotes.offset, if_pos (Spelling.doubled_of_operator doubled), stepped]
    rfl
  · rw [read, found']
    exact Parts.interpret_eq_ok_of_denotes (Spelling.wellFormed_steppingOne reading.1.1 operator)
      (Spelling.firstFault?_steppingOne free operator) (Spelling.denotes_steppingOne denotes doubled)

/-! ## The values behind the offset -/

theorem distance_withoutOffset (expression : Expression) (index : Nat) :
    expression.withoutOffset.distance (index + expression.offset * expression.repeats) =
      expression.distance index := by
  have later : (index + expression.offset * expression.repeats) / expression.repeats =
      index / expression.repeats + expression.offset :=
    Nat.add_mul_div_right index expression.offset expression.repeats_pos
  change (0 + (index + expression.offset * expression.repeats) / expression.repeats) *
    expression.step = _
  rw [later, Nat.zero_add, Nat.add_comm, distance]

/-- A sequence with an offset is the one without it, from as many runs later as the offset says. -/
theorem valueAt_of_offset (expression : Expression) (alphabet : Alphabet) (index : Nat) :
    expression.withoutOffset.valueAt alphabet (index + expression.offset * expression.repeats) =
      expression.valueAt alphabet index := by
  have same : expression.withoutOffset.displacement?
      (index + expression.offset * expression.repeats) = expression.displacement? index := by
    rw [displacement?_eq, displacement?_eq, distance_withoutOffset]
    rfl
  exact valueAt_of_displacement? alphabet same

/-- If a start, a doubled operator, a number and anything behind it that does not go on with a digit are
an expression, then so are the start, a single operator, a step of one and the same behind it. The second
is the first without its offset, which is the number, and the values of the first are those that the
second has as many runs later as the number says. -/
theorem read_doubled_operator (alphabet : Alphabet) (operator : Operator) {start : StartPart}
    {digits suffix : Text} {expression : Expression} (formed : start.WellFormed)
    (number : digits.IsDigits) (apart : ∀ c ∈ suffix.head?, c.isDigit = false)
    (accepted : read alphabet
      (start.text ++ [operator.mark, operator.mark] ++ digits ++ suffix) = .ok expression) :
    expression.offset = Numeral.readDecimal digits ∧
      read alphabet (start.text ++ [operator.mark, '1'] ++ suffix) =
        .ok expression.withoutOffset ∧
      ∀ index, expression.valueAt alphabet index =
        expression.withoutOffset.valueAt alphabet
          (index + Numeral.readDecimal digits * expression.repeats) := by
  have text : start.text ++ [operator.mark, operator.mark] ++ digits ++ suffix =
      start.text ++ (operator.doubledPart.text ++ (digits ++ suffix)) := by
    rw [operator.text_doubledPart, List.append_assoc, List.append_assoc]
  rw [text] at accepted
  obtain ⟨offset, reads⟩ := read_steppingOne formed operator number apart accepted
  rw [operator.text_part] at reads
  refine ⟨offset, ?_, fun index => ?_⟩
  · rw [List.append_assoc]
    exact reads
  · rw [← offset]
    exact (valueAt_of_offset expression alphabet index).symm

/-- With every value held twice, an offset of three starts six indices later. -/
theorem read_doubled_operator_held :
    ∃ expression, read .latin "bz++03a:_>4/2!".toList = .ok expression ∧ expression.offset = 3 ∧
      read .latin "bz+1a:_>4/2!".toList = .ok expression.withoutOffset ∧
      expression.valueAt .latin 1 = expression.withoutOffset.valueAt .latin 7 ∧
      expression.valueAt .latin 1 = "__cc".toList := by
  let expression : Expression :=
    { ofStart (.alphabetic ['b', 'z']) with
      offset := 3, fill := '_', width := 4, repeats := 2, repeats_pos := by decide, reorder := true }
  have accepted : read .latin "bz++03a:_>4/2!".toList = .ok expression := by decide
  have formed : (StartPart.word ['b', 'z']).WellFormed :=
    ⟨by decide, List.all_eq_true.mp (by decide)⟩
  have number : Text.IsDigits ['0', '3'] := by simp [Text.IsDigits]
  have apart : ∀ c ∈ "a:_>4/2!".toList.head?, c.isDigit = false := by simp
  obtain ⟨offset, reads, later⟩ := read_doubled_operator .latin .add formed number apart accepted
  exact ⟨expression, accepted, offset, reads, later 1, by decide +kernel⟩

end Expression

end Numbering
