import Numbering.Proofs.Expression.Read

/-! # What every expression that is read is like

The checks leave nothing outside its field: numbers fit the words that they are read into, a radix
has digits, and a word consists of letters that the grammar and the alphabet have. The one field
without a limit is the width, which a start with zeros in front may ask for.
-/

namespace Numbering

/-- A start that can be read: a signed word, or letters that the grammar and the alphabet have. -/
def Start.Readable (alphabet : Alphabet) : Start → Prop
  | .numeric number => Numeral.FitsWord number
  | .alphabetic word => word ≠ [] ∧ (∀ c ∈ word, Character.isWordLetter c = true) ∧
      ∀ c ∈ word, alphabet.contains c = true

/-- The limits of the fields that do not depend on the start. -/
structure Expression.Limits (expression : Expression) : Prop where
  step : expression.step ≤ Numeral.maxWord
  offset : expression.offset ≤ Numeral.maxWord
  wide : 2 ≤ expression.radix
  narrow : expression.radix ≤ 36
  fill : expression.fill ≠ '>'
  repeats : expression.repeats ≤ Numeral.maxWord

/-- An expression as it is read. An offset is written in place of a step, and a word has no radix. -/
structure Expression.Readable (alphabet : Alphabet) (expression : Expression) : Prop where
  start : expression.start.Readable alphabet
  limits : expression.Limits
  single : expression.step = 1 ∨ expression.offset = 0
  decimal : ∀ word, expression.start = .alphabetic word → expression.radix = 10

variable {alphabet : Alphabet} {spelling : Spelling}

/-- What a word that can be read consists of. -/
theorem Expression.Readable.word {expression : Expression} {word : Text}
    (readable : expression.Readable alphabet) (alphabetic : expression.start = .alphabetic word) :
    word ≠ [] ∧ (∀ c ∈ word, Character.isWordLetter c = true) ∧
      ∀ c ∈ word, alphabet.contains c = true := by
  have start := readable.start
  rwa [alphabetic] at start

/-! ## What passes a check -/

theorem Expression.value_eq_alphabetic_iff {part : StartPart} {word : Text} :
    part.value = .alphabetic word ↔ part = .word word := by
  cases part <;> simp [StartPart.value]

theorem Expression.fault_word_eq_none_iff {word : Text} :
    (StartPart.word word).fault alphabet = none ↔ ∀ c ∈ word, alphabet.contains c = true := by
  simp [StartPart.fault]

theorem StartPart.fault_numeral_eq_none_iff {sign : Option Char} {digits : Text} :
    (StartPart.numeral sign digits).fault alphabet = none ↔
      Numeral.FitsWord (signedValue sign digits) := by
  simp [StartPart.fault]

theorem readDecimal_le_of_overflow {field : NumberField} {limit : Nat} {literal : Option Text}
    (fits : overflow field limit literal = none) :
    ∀ digits ∈ literal, Numeral.readDecimal digits ≤ limit := by
  rintro digits rfl
  simpa [overflow] using fits

theorem getD_readDecimal_le {field : NumberField} {limit default : Nat} {literal : Option Text}
    (fits : overflow field limit literal = none) (low : default ≤ limit) :
    (literal.map Numeral.readDecimal).getD default ≤ limit := by
  cases literal with
  | none => exact low
  | some digits => exact readDecimal_le_of_overflow fits digits rfl

namespace Spelling

theorem readable_start (formed : spelling.WellFormed)
    (known : spelling.start.fault alphabet = none) :
    spelling.start.value.Readable alphabet := by
  have whole := formed.start
  cases start : spelling.start with
  | numeral sign digits =>
    rw [start] at known
    exact StartPart.fault_numeral_eq_none_iff.mp known
  | word letters =>
    rw [start] at whole known
    exact ⟨whole.1, whole.2, Expression.fault_word_eq_none_iff.mp known⟩

theorem radix_of_radixOutOfRange (inRange : spelling.radixOutOfRange = none) :
    2 ≤ (spelling.radixDigits.map Numeral.readDecimal).getD 10 ∧
      (spelling.radixDigits.map Numeral.readDecimal).getD 10 ≤ 36 := by
  cases given : spelling.radixDigits with
  | none => decide
  | some digits =>
    rw [radixOutOfRange, given] at inRange
    by_contra outside
    exact absurd inRange (by simpa [Classical.not_imp] using outside)

theorem fill_ne (formed : spelling.WellFormed) :
    (spelling.pad.bind fun pad => pad.fill.join).getD spelling.startFill ≠ '>' := by
  have whole := formed.pad
  have unfilled : spelling.startFill ≠ '>' := by
    rw [startFill]
    split <;> decide
  cases given : spelling.pad with
  | none => exact unfilled
  | some pad =>
    have other := (whole pad given).1
    rcases filled : pad.fill with _ | _ | fill
    · simpa [filled] using unfilled
    · simpa [filled] using unfilled
    · rw [filled] at other
      simpa [filled] using other

theorem radixDigits_of_word {word : Text} (start : spelling.start = .word word)
    (allowed : spelling.radixOnLetters = none) : spelling.radixDigits = none := by
  rcases mode : spelling.mode with _ | (digits | letter)
  · rw [radixDigits, mode]
  · simp [radixOnLetters, start, mode] at allowed
  · rw [radixDigits, mode]

end Spelling

/-! ## Expressions -/

namespace Expression

variable {expression : Expression} {text : Text}

theorem limits_of_denotes (formed : spelling.WellFormed)
    (free : spelling.firstFault? alphabet = none) (denotes : spelling.Denotes expression) :
    expression.Limits := by
  have passes {fault : Option Rejection} (checked : fault ∈ spelling.faults alphabet) :
      fault = none := Spelling.eq_none_of_mem_faults free checked
  have step : overflow .step Numeral.maxWord spelling.step = none :=
    passes (by simp [Spelling.faults])
  have inRange : spelling.radixOutOfRange = none := passes (by simp [Spelling.faults])
  have counted : overflow .repeats Numeral.maxWord spelling.countDigits = none :=
    passes (by simp [Spelling.faults])
  have radix := Spelling.radix_of_radixOutOfRange inRange
  constructor
  · rw [denotes.step]
    split
    · decide
    · exact getD_readDecimal_le step (by decide)
  · rw [denotes.offset]
    split
    · exact getD_readDecimal_le step (by decide)
    · decide
  · rw [denotes.radix]
    exact radix.1
  · rw [denotes.radix]
    exact radix.2
  · rw [denotes.fill]
    exact Spelling.fill_ne formed
  · rw [denotes.repeats]
    exact getD_readDecimal_le counted (by decide)

/-- An expression that is read keeps all limits but that of a width. -/
theorem readable_of_read (reads : read alphabet text = .ok expression) :
    expression.Readable alphabet := by
  obtain ⟨spelling, reading, free, denotes⟩ := exists_isReading_of_read reads
  have formed := reading.1.1
  have passes {fault : Option Rejection} (checked : fault ∈ spelling.faults alphabet) :
      fault = none := Spelling.eq_none_of_mem_faults free checked
  constructor
  · rw [denotes.start]
    exact Spelling.readable_start formed (passes (by simp [Spelling.faults]))
  · exact limits_of_denotes formed free denotes
  · rw [denotes.step, denotes.offset]
    by_cases doubled : spelling.Doubled
    · exact .inl (if_pos doubled)
    · exact .inr (if_neg doubled)
  · intro word alphabetic
    have start : spelling.start = .word word :=
      value_eq_alphabetic_iff.mp (denotes.start.symm.trans alphabetic)
    have allowed : spelling.radixOnLetters = none := passes (by simp [Spelling.faults])
    rw [denotes.radix, Spelling.radixDigits_of_word start allowed]
    rfl

end Expression

end Numbering
