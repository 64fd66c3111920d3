import Numbering.Proofs.Expression.Layout

/-! # The longest start

A layout whose start could go on has taken digits of its start for a step, or the last letter of its
start for a marker: nothing else that may stand behind a start continues it. Giving that part back
to the start makes another layout of the same text, and its start cannot go on. So a longest start
is one that cannot go on, and every text that has a layout has one with such a start.
-/

namespace Numbering.Spelling

open Expression Character

section Head
variable {c : Char} {rest : Text}

theorem head_of_append {blank : Text} (white : blank.IsBlank) (visible : rank c ≠ 0)
    (first : c ∈ (blank ++ rest).head?) : blank = [] ∧ c ∈ rest.head? := by
  cases blank with
  | nil => exact ⟨rfl, first⟩
  | cons d tail =>
    obtain rfl : d = c := by simpa using first
    exact absurd (rank_eq_zero_iff.mpr (white d (by simp))) visible

theorem head_of_typed {α : Type} {level : Nat} {text : α → Text} {part : Option α}
    (opens : ∀ value ∈ part, Opens level (text value)) (other : rank c ≠ level)
    (first : c ∈ (typed text part ++ rest).head?) : part = none ∧ c ∈ rest.head? := by
  cases part with
  | none => exact ⟨rfl, first⟩
  | some value =>
    obtain ⟨d, tail, same, ranked⟩ := opens value rfl
    obtain rfl : d = c := by simpa [typed, same] using first
    exact absurd ranked other

end Head

variable {spelling : Spelling} {blanks : Blanks}

/-- A start that goes on with a character of neither rank has no operator behind it. -/
theorem operator_eq_none (white : blanks.WellFormed) {c : Char}
    (visible : rank c ≠ 0) (other : rank c ≠ 6) (first : c ∈ (spelling.behindStart blanks).head?) :
    blanks.operator = [] ∧ spelling.operator = none ∧ blanks.step = [] ∧
      c ∈ (typed id spelling.step ++ spelling.behindStep blanks).head? := by
  obtain ⟨noBlank, behind⟩ := head_of_append white.operator visible first
  obtain ⟨noOperator, behind⟩ := head_of_typed (fun op _ => opens_operator op) other behind
  obtain ⟨noSpace, behind⟩ := head_of_append white.step visible behind
  exact ⟨noBlank, noOperator, noSpace, behind⟩

/-- A start in front of an operator cannot go on. -/
theorem ends_of_operator (white : blanks.WellFormed) (written : spelling.operator ≠ none) :
    StartPart.Ends spelling.start (spelling.behindStart blanks) := by
  have ranked : ∀ c ∈ (spelling.behindStart blanks).head?, rank c = 0 ∨ rank c = 6 := by
    intro c first
    by_contra other
    rw [not_or] at other
    exact written (operator_eq_none white other.1 other.2 first).2.1
  cases spelling.start with
  | numeral sign digits =>
    intro c first
    have level := ranked c first
    exact isDigit_of_rank_ne (by omega)
  | word letters =>
    intro c first
    have level := ranked c first
    cases letter : isWordLetter c with
    | false => rfl
    | true =>
      have high := four_le_rank_of_isWordLetter letter
      omega

/-- A spelling with the same layout whose start is longer and cannot go on. -/
structure Prolongs (longer spelling : Spelling) (blanks : Blanks) : Prop where
  formed : longer.WellFormed
  layout : longer.layout blanks = spelling.layout blanks
  ends : StartPart.Ends longer.start (longer.behindStart blanks)
  grows : spelling.start.text.length < longer.start.text.length

/-- Behind a numeral that could go on stands a step, whose digits are given back to it. -/
theorem prolongs_numeral (formed : spelling.WellFormed) (white : blanks.WellFormed)
    {sign : Option Char} {digits : Text} (start : spelling.start = .numeral sign digits) {c : Char}
    (digit : c.isDigit = true) (first : c ∈ (spelling.behindStart blanks).head?) :
    ∃ longer, Prolongs longer spelling blanks := by
  have ranked := rank_of_isDigit digit
  have low := (opensBelow_behindStep formed white).head
  obtain ⟨noBlank, noOperator, noSpace, behind⟩ :=
    operator_eq_none white (by omega) (by omega) first
  cases given : spelling.step with
  | none =>
    rw [given] at behind
    have := low c behind
    omega
  | some more =>
    have whole := formed.start
    rw [start] at whole
    obtain ⟨signed, -, all⟩ := whole
    obtain ⟨nonempty, others⟩ := formed.step more given
    refine ⟨{ spelling with start := .numeral sign (digits ++ more), step := none }, ?_, ?_, ?_, ?_⟩
    · have numeral : StartPart.WellFormed (.numeral sign (digits ++ more)) := by
        refine ⟨signed, by simp [nonempty], fun d member => ?_⟩
        exact (List.mem_append.mp member).elim (all d) (others d)
      exact ⟨numeral, by simp, formed.mode, formed.pad, formed.repeats, formed.flags⟩
    · simp [layout, start, given, noBlank, noOperator, noSpace, typed, StartPart.text]
    · simp only [StartPart.Ends, behindStart, noBlank, noOperator, behindOperator, noSpace]
      exact isDigit_of_low (by omega) low
    · have longer := List.length_pos_iff.mpr nonempty
      simp only [start, StartPart.text, List.length_append]
      omega

/-- Behind a word that could go on stands a marker, which is given back to it. -/
theorem prolongs_word (formed : spelling.WellFormed) (white : blanks.WellFormed)
    {letters : Text} (start : spelling.start = .word letters) {c : Char}
    (letter : isWordLetter c = true) (first : c ∈ (spelling.behindStart blanks).head?) :
    ∃ longer, Prolongs longer spelling blanks := by
  obtain ⟨high, notDigit, notSign⟩ := four_le_rank_of_isWordLetter letter
  have low := (opensBelow_behindMode formed white).head
  obtain ⟨noBlank, noOperator, noSpace, behind⟩ :=
    operator_eq_none white (by omega) notSign first
  obtain ⟨noStep, behind⟩ := head_of_typed (opens_step formed) notDigit behind
  obtain ⟨noGap, behind⟩ := head_of_append white.mode (by omega) behind
  rcases given : spelling.mode with _ | (digits | mark)
  · rw [given] at behind
    have := low c behind
    omega
  · rw [given] at behind
    obtain rfl : '#' = c := by simpa [typed, ModeSpelling.text] using behind
    exact absurd letter (by decide)
  · rw [given] at behind
    obtain rfl : mark = c := by simpa [typed, ModeSpelling.text] using behind
    have whole := formed.start
    rw [start] at whole
    refine ⟨{ spelling with start := .word (letters ++ [mark]), mode := none }, ?_, ?_, ?_, ?_⟩
    · have word : StartPart.WellFormed (.word (letters ++ [mark])) := by
        refine ⟨by simp, fun d member => ?_⟩
        rcases List.mem_append.mp member with inside | last
        · exact whole.2 d inside
        · rw [List.mem_singleton.mp last, letter]
      exact ⟨word, formed.step, by simp, formed.pad, formed.repeats, formed.flags⟩
    · simp [layout, start, given, noBlank, noOperator, noSpace, noStep, noGap, typed,
        StartPart.text, ModeSpelling.text]
    · simp only [StartPart.Ends, behindStart, noBlank, noOperator, behindOperator, noSpace, noStep,
        behindStep, noGap]
      intro d opening
      have small := low d opening
      cases other : isWordLetter d with
      | true => exact absurd (four_le_rank_of_isWordLetter other).1 (by omega)
      | false => rfl
    · simp [start, StartPart.text]

/-- A start can go on only if another layout of the same text has a longer one. -/
theorem ends_or_prolongs (formed : spelling.WellFormed) (white : blanks.WellFormed) :
    StartPart.Ends spelling.start (spelling.behindStart blanks) ∨
      ∃ longer, Prolongs longer spelling blanks := by
  rw [or_iff_not_imp_left]
  intro goesOn
  cases start : spelling.start with
  | numeral sign digits =>
    simp only [start, StartPart.Ends, not_forall, Bool.not_eq_false] at goesOn
    obtain ⟨c, first, digit⟩ := goesOn
    exact prolongs_numeral formed white start digit first
  | word letters =>
    simp only [start, StartPart.Ends, not_forall, Bool.not_eq_false] at goesOn
    obtain ⟨c, first, letter⟩ := goesOn
    exact prolongs_word formed white start letter first

/-! ## Readings -/

theorem Writes.scan? {text : Text} (writes : spelling.Writes text) :
    ∃ longest : Spelling, longest.Writes text ∧ Parts.scan? text = some longest.parts ∧
      (longest = spelling ∨ spelling.start.text.length < longest.start.text.length) := by
  obtain ⟨formed, blanks, white, rfl⟩ := writes
  rcases ends_or_prolongs formed white with ends | ⟨longer, prolongs⟩
  · exact ⟨spelling, ⟨formed, blanks, white, rfl⟩, scan?_layout formed white ends, .inl rfl⟩
  · refine ⟨longer, ⟨prolongs.formed, blanks, white, prolongs.layout.symm⟩, ?_, .inr prolongs.grows⟩
    rw [← prolongs.layout]
    exact scan?_layout prolongs.formed white prolongs.ends

/-- The parts that the scanner finds are those of a reading. -/
theorem IsReading.scan? {text : Text} (reading : spelling.IsReading text) :
    Parts.scan? text = some spelling.parts := by
  obtain ⟨longest, writes, found, rfl | grows⟩ := reading.1.scan?
  · exact found
  · exact absurd (reading.2 longest writes) (by omega)

/-- A layout with the parts that the scanner finds has the longest start. -/
theorem Writes.isReading_of_scan? {text : Text} (writes : spelling.Writes text)
    (found : Parts.scan? text = some spelling.parts) : spelling.IsReading text := by
  refine ⟨writes, fun other otherWrites => ?_⟩
  obtain ⟨longest, -, again, longer⟩ := otherWrites.scan?
  have same : longest.start = spelling.start :=
    congrArg Parts.start (Option.some.inj (again.symm.trans found))
  rcases longer with rfl | grows
  · rw [same]
  · rw [← same]
    exact Nat.le_of_lt grows

/-- A layout whose start cannot go on is a reading. -/
theorem isReading_layout (formed : spelling.WellFormed) (white : blanks.WellFormed)
    (ends : StartPart.Ends spelling.start (spelling.behindStart blanks)) :
    spelling.IsReading (spelling.layout blanks) := by
  have writes : spelling.Writes (spelling.layout blanks) := ⟨formed, blanks, white, rfl⟩
  exact writes.isReading_of_scan? (scan?_layout formed white ends)

/-- The start of a reading cannot go on. -/
theorem IsReading.exists_layout {text : Text} (reading : spelling.IsReading text) :
    ∃ blanks : Blanks, blanks.WellFormed ∧ text = spelling.layout blanks ∧
      StartPart.Ends spelling.start (spelling.behindStart blanks) := by
  obtain ⟨⟨formed, blanks, white, rfl⟩, longest⟩ := reading
  refine ⟨blanks, white, rfl, ?_⟩
  rcases ends_or_prolongs formed white with ends | ⟨longer, prolongs⟩
  · exact ends
  · have writes : longer.Writes (spelling.layout blanks) :=
      ⟨prolongs.formed, blanks, white, prolongs.layout.symm⟩
    exact absurd (longest longer writes) (Nat.not_le_of_lt prolongs.grows)

/-- A text that has a layout has a reading. -/
theorem Writes.exists_isReading {text : Text} (writes : spelling.Writes text) :
    ∃ reading : Spelling, reading.IsReading text := by
  obtain ⟨longest, written, found, -⟩ := writes.scan?
  exact ⟨longest, written.isReading_of_scan? found⟩

theorem Writes.unique {text : Text} {other : Spelling} (writes : spelling.Writes text)
    (otherWrites : other.Writes text) (start : spelling.start = other.start) :
    spelling = other := by
  obtain ⟨formed, blanks, white, same⟩ := writes
  obtain ⟨otherFormed, spaces, otherWhite, again⟩ := otherWrites
  exact eq_of_layout_eq formed white otherFormed otherWhite (same.symm.trans again) start

/-- A text has one reading, and no other layout has a start of that length. -/
theorem IsReading.eq_of_length {text : Text} {other : Spelling} (reading : spelling.IsReading text)
    (writes : other.Writes text)
    (long : other.start.text.length = spelling.start.text.length) : other = spelling := by
  have longest : other.IsReading text :=
    ⟨writes, fun rival rivalWrites => long ▸ reading.2 rival rivalWrites⟩
  have parts := Option.some.inj (longest.scan?.symm.trans reading.scan?)
  exact writes.unique reading.1 (congrArg Parts.start parts)

end Numbering.Spelling
