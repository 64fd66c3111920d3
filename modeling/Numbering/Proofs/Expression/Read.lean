import Numbering.Proofs.Expression.Faults
import Numbering.Proofs.Expression.Pattern

/-! # What reading an expression gives

A text is refused for its grammar exactly if it has no layout. Any other text is read as its layout
with the longest start, which is the only one with a start of that length and the first way of the
pattern to take the whole text. The first check that this layout fails is the reason of a refusal,
and a layout that fails none gives the expression that it denotes.
-/

namespace Numbering.Expression

theorem exists_read_eq (alphabet : Alphabet) {text : Text} {spelling : Spelling}
    (reading : spelling.IsReading text) :
    ∃ expression, read alphabet text = settle (spelling.faults alphabet) expression ∧
      (spelling.firstFault? alphabet = none → spelling.Denotes expression) := by
  rw [read, reading.scan?]
  exact Parts.exists_interpret_eq alphabet reading.1.1

/-- A reading that passes all checks is read as the expression that it denotes. -/
theorem read_eq_ok_of_denotes {alphabet : Alphabet} {text : Text} {spelling : Spelling}
    {expression : Expression} (reading : spelling.IsReading text)
    (free : spelling.firstFault? alphabet = none) (denotes : spelling.Denotes expression) :
    read alphabet text = .ok expression := by
  rw [read, reading.scan?]
  exact Parts.interpret_eq_ok_of_denotes reading.1.1 free denotes

/-- An expression that is read is the one that the reading of its text denotes. -/
theorem exists_isReading_of_read {alphabet : Alphabet} {text : Text} {expression : Expression}
    (accepted : read alphabet text = .ok expression) :
    ∃ spelling : Spelling, spelling.IsReading text ∧ spelling.firstFault? alphabet = none ∧
      spelling.Denotes expression := by
  cases found : Parts.scan? text with
  | none =>
    rw [read, found] at accepted
    cases accepted
  | some parts =>
    obtain ⟨spelling, writes, rfl⟩ := Parts.exists_writes_of_scan? found
    have reading := writes.isReading_of_scan? found
    obtain ⟨result, settled, denotes⟩ := exists_read_eq alphabet reading
    obtain ⟨free, rfl⟩ := settle_eq_ok_iff.mp (settled.symm.trans accepted)
    exact ⟨spelling, reading, free, denotes free⟩

/-- A start alone is read as the sequence from it, in the width that it asks for, unless it has a
fault. -/
theorem read_start (alphabet : Alphabet) {start : StartPart} (formed : start.WellFormed) :
    read alphabet start.text = settle [start.fault alphabet]
      { ofStart start.value with width := Parts.impliedWidth start } := by
  have ends : StartPart.Ends start [] := by
    cases start <;> simp [StartPart.Ends]
  rw [read, Spelling.scan?_start formed ends]
  change (Parts.readStart alphabet start >>= _) = _
  rw [Parts.readStart_eq]
  exact settle_bind (show _ = settle [] _ from rfl)

theorem read_eq_grammar_iff (alphabet : Alphabet) (text : Text) :
    read alphabet text = .error .grammar ↔ ∀ spelling : Spelling, ¬ spelling.Writes text := by
  constructor
  · intro refused spelling writes
    obtain ⟨reading, isReading⟩ := writes.exists_isReading
    obtain ⟨expression, settled, -⟩ := exists_read_eq alphabet isReading
    rw [settled, settle_eq_error_iff] at refused
    exact reading.firstFault?_ne_grammar alphabet refused
  · intro no
    rw [read]
    cases found : Parts.scan? text with
    | none => rfl
    | some parts =>
      obtain ⟨spelling, writes, -⟩ := Parts.exists_writes_of_scan? found
      exact absurd writes (no spelling)

/-- A text is refused for its grammar if it has no layout, and is read as the layout with the
longest start otherwise; no other layout has a start of that length. The pattern of an expression,
searched with second choices, finds the same parts. -/
theorem read_longest_start (alphabet : Alphabet) (text : Text) :
    (read alphabet text = .error .grammar ↔ ∀ spelling : Spelling, ¬ spelling.Writes text) ∧
      Pattern.firstMatch? text = Parts.scan? text ∧
      ∀ spelling : Spelling, spelling.Writes text →
        ∃ reading : Spelling, reading.IsReading text ∧
          (∀ other : Spelling, other.Writes text →
            other.start.text.length = reading.start.text.length → other = reading) ∧
          Parts.scan? text = some reading.parts ∧
          read alphabet text = reading.parts.interpret alphabet := by
  refine ⟨read_eq_grammar_iff alphabet text, Pattern.firstMatch?_eq_scan? text,
    fun spelling writes => ?_⟩
  obtain ⟨reading, isReading⟩ := writes.exists_isReading
  refine ⟨reading, isReading, fun other => isReading.eq_of_length, isReading.scan?, ?_⟩
  rw [read, isReading.scan?]

/-- The `a` of `ba` could be a marker, but belongs to the start. -/
theorem read_longest_start_ba :
    ∃ short : Spelling, short.start = .word ['b'] ∧ short.Writes ['b', 'a'] ∧
      ∃ reading : Spelling, reading.IsReading ['b', 'a'] ∧
        Parts.scan? ['b', 'a'] = some reading.parts ∧
        read .latin ['b', 'a'] = reading.parts.interpret .latin := by
  let short : Spelling := ⟨.word ['b'], none, none, some (.marker 'a'), none, none, []⟩
  have formed : short.WellFormed :=
    ⟨⟨by simp, List.all_eq_true.mp (by decide)⟩, by simp [short],
      by simp [short, ModeSpelling.WellFormed], by simp [short], by simp [short], by simp [short]⟩
  have writes : short.Writes ['b', 'a'] := by
    refine ⟨formed, ⟨[], [], [], [], [], [], [], []⟩, ?_, rfl⟩
    constructor <;> simp [Text.IsBlank]
  obtain ⟨reading, isReading, -, found, interpreted⟩ :=
    (read_longest_start .latin ['b', 'a']).2.2 short writes
  exact ⟨short, rfl, writes, reading, isReading, found, interpreted⟩

/-- An expression is refused for the first check that its layout with the longest start fails, and
is the one that this layout denotes if it fails none. -/
theorem read_eq_of_isReading (alphabet : Alphabet) {text : Text} {spelling : Spelling}
    (reading : spelling.IsReading text) :
    (∀ rejection, read alphabet text = .error rejection ↔
        spelling.firstFault? alphabet = some rejection) ∧
      (spelling.firstFault? alphabet = none ↔
        ∃ expression, read alphabet text = .ok expression ∧ spelling.Denotes expression) := by
  obtain ⟨expression, settled, denotes⟩ := exists_read_eq alphabet reading
  rw [settled]
  refine ⟨fun rejection => settle_eq_error_iff, ?_⟩
  constructor
  · intro free
    exact ⟨expression, settle_eq_ok_iff.mpr ⟨free, rfl⟩, denotes free⟩
  · rintro ⟨result, accepted, -⟩
    exact (settle_eq_ok_iff.mp accepted).1

/-- Three digits that begin with zero, an offset of three, every value twice. -/
theorem read_eq_of_isReading_offset :
    ∃ spelling : Spelling, spelling.IsReading "007 ++3/2!".toList ∧
      ∃ expression, read .latin "007 ++3/2!".toList = .ok expression ∧
        spelling.Denotes expression := by
  let spelling : Spelling :=
    ⟨.numeral none ['0', '0', '7'], some .plusPlus, some ['3'], none, none, some ⟨'/', ['2']⟩,
      ['!']⟩
  have formed : spelling.WellFormed :=
    ⟨⟨by simp, by simp [Text.IsDigits]⟩, by simp [spelling, Text.IsDigits], by simp [spelling],
      by simp [spelling], by simp [spelling, RepeatSpelling.WellFormed, Text.IsDigits],
      by simp [spelling]⟩
  have writes : spelling.Writes "007 ++3/2!".toList := by
    refine ⟨formed, ⟨[], [' '], [], [], [], [], [], []⟩, ?_, rfl⟩
    have blank : Character.isWhiteSpace ' ' = true := by decide
    constructor <;> simp [Text.IsBlank, blank]
  have reading : spelling.IsReading "007 ++3/2!".toList := writes.isReading_of_scan? (by decide)
  have free : spelling.firstFault? .latin = none := by decide
  exact ⟨spelling, reading, (read_eq_of_isReading .latin reading).2.mp free⟩

end Numbering.Expression
