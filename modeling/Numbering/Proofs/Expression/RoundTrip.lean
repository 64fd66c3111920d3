import Numbering.Proofs.Expression.Readable
import Numbering.Proofs.Numeral.Radix

/-! # Expressions written out

An expression is written with all its parts: the start, the operator with the step behind it, the
radix of a number, the fill and the width, the repeat and the flags. A doubled operator has the offset
behind it instead, and the step is one. Reading the text gives the expression back
(`read_written_of_readable`), whatever the fill is, since each part opens with a character of its own
and ends where the next one opens. The converse holds up to a width that is not written, so the
expressions with a text are exactly the readable ones (`exists_read_iff`).
-/

namespace Numbering

/-! ## The text -/

def Start.written : Start → Text
  | .numeric number => Numeral.decimalInt number
  | .alphabetic word => word

namespace Expression

def writtenStep (expression : Expression) (doubled : Bool) : Text :=
  if doubled then
    expression.operator.mark :: expression.operator.mark :: Numeral.decimal expression.offset
  else expression.operator.mark :: Numeral.decimal expression.step

def writtenRadix (expression : Expression) : Text :=
  match expression.start with
  | .numeric _ => '#' :: Numeral.decimal expression.radix
  | .alphabetic _ => []

def writtenFlags (expression : Expression) : Text :=
  (if expression.reorder then ['!'] else []) ++ if expression.showPlus then ['@'] else []

/-- An expression with all its parts, without white space between them. -/
def written (expression : Expression) (doubled : Bool) : Text :=
  expression.start.written ++ expression.writtenStep doubled ++ expression.writtenRadix ++
    [':', expression.fill, '>'] ++ Numeral.decimal expression.width ++
    '/' :: Numeral.decimal expression.repeats ++ expression.writtenFlags

end Expression

/-! ## Its parts -/

variable {alphabet : Alphabet} {expression : Expression} {doubled : Bool}

theorem Numeral.isDigits_decimal (number : Nat) : Text.IsDigits (Numeral.decimal number) :=
  ⟨Numeral.decimal_ne_nil number, fun _ => Numeral.isDigit_of_mem_decimal⟩

theorem overflow_decimal_eq_none {field : NumberField} {limit number : Nat}
    (fits : number ≤ limit) : overflow field limit (some (Numeral.decimal number)) = none := by
  simpa [overflow, Numeral.readDecimal_decimal] using fits

/-- The part that writes a start. -/
def Start.part : Start → StartPart
  | .numeric number =>
    .numeral (if number < 0 then some '-' else none) (Numeral.decimal number.natAbs)
  | .alphabetic word => .word word

namespace Start

theorem text_part (start : Start) : start.part.text = start.written := by
  cases start with
  | numeric number =>
    rw [part, StartPart.text, written, Numeral.decimalInt]
    split <;> rfl
  | alphabetic word => rfl

theorem value_part (start : Start) : start.part.value = start := by
  cases start with
  | numeric number =>
    rw [part, StartPart.value, signedValue, Numeral.readDecimal_decimal]
    by_cases negative : number < 0
    · rw [if_pos negative, if_pos rfl, Int.ofNat_natAbs_of_nonpos (by omega), Int.neg_neg]
    · rw [if_neg negative, if_neg (by simp), Int.natAbs_of_nonneg (by omega)]
  | alphabetic word => rfl

theorem wellFormed_part {start : Start} (readable : start.Readable alphabet) :
    start.part.WellFormed := by
  cases start with
  | numeric number =>
    refine ⟨fun c sign => .inr ?_, Numeral.isDigits_decimal _⟩
    split_ifs at sign with negative
    · exact (Option.some.inj sign).symm
    · cases sign
  | alphabetic word => exact ⟨readable.1, readable.2.1⟩

theorem fault_part {start : Start} (readable : start.Readable alphabet) :
    start.part.fault alphabet = none := by
  cases start with
  | numeric number =>
    apply StartPart.fault_numeral_eq_none_iff.mpr
    have value : Start.numeric (signedValue _ _) = .numeric number :=
      value_part (.numeric number)
    rw [Start.numeric.inj value]
    exact readable
  | alphabetic word => exact Expression.fault_word_eq_none_iff.mpr readable.2.2

end Start

namespace Expression

/-- The spelling of an expression that is written with all its parts. -/
def spelling (expression : Expression) (doubled : Bool) : Spelling where
  start := expression.start.part
  operator :=
    some (if doubled then expression.operator.doubledPart else expression.operator.part)
  step := some (Numeral.decimal (if doubled then expression.offset else expression.step))
  mode := match expression.start with
    | .numeric _ => some (.radix (Numeral.decimal expression.radix))
    | .alphabetic _ => none
  pad := some ⟨some (some expression.fill), Numeral.decimal expression.width⟩
  repeats := some ⟨'/', Numeral.decimal expression.repeats⟩
  flags := expression.writtenFlags

theorem layout_spelling (expression : Expression) (doubled : Bool) :
    (expression.spelling doubled).layout .none = expression.written doubled := by
  have step : typed OperatorPart.text (expression.spelling doubled).operator ++
      typed id (expression.spelling doubled).step = expression.writtenStep doubled := by
    cases doubled
    · simp [spelling, typed, writtenStep, Operator.text_part]
    · simp [spelling, typed, writtenStep, Operator.text_doubledPart]
  have mode : typed ModeSpelling.text (expression.spelling doubled).mode =
      expression.writtenRadix := by
    rw [spelling, writtenRadix]
    cases expression.start <;> rfl
  have start : (expression.spelling doubled).start.text = expression.start.written :=
    expression.start.text_part
  rw [written, ← step, ← mode, ← start]
  simp [Spelling.layout, Blanks.none, spelling, typed, PadSpelling.text, RepeatSpelling.text]

theorem wellFormed_spelling (readable : expression.Readable alphabet) (doubled : Bool) :
    (expression.spelling doubled).WellFormed := by
  constructor
  · exact Start.wellFormed_part readable.start
  · rintro digits ⟨⟩
    exact Numeral.isDigits_decimal _
  · intro mode given
    rw [spelling] at given
    cases start : expression.start with
    | numeric number =>
      simp only [start, Option.mem_some_iff] at given
      rw [← given]
      exact Numeral.isDigits_decimal _
    | alphabetic word => simp [start] at given
  · rintro pad ⟨⟩
    exact ⟨by simpa using readable.limits.fill, Numeral.isDigits_decimal _⟩
  · rintro repeats ⟨⟩
    exact ⟨.inl rfl, Numeral.isDigits_decimal _⟩
  · intro c member
    rcases List.mem_append.mp member with flag | flag
    · split_ifs at flag
      · exact .inl (List.mem_singleton.mp flag)
      · cases flag
    · split_ifs at flag
      · exact .inr (List.mem_singleton.mp flag)
      · cases flag

/-- The text is read as these parts and no others: its start cannot go on, as an operator follows. -/
theorem isReading_spelling (readable : expression.Readable alphabet) (doubled : Bool) :
    (expression.spelling doubled).IsReading (expression.written doubled) := by
  have ends : StartPart.Ends (expression.spelling doubled).start
      ((expression.spelling doubled).behindStart .none) :=
    Spelling.ends_of_operator Blanks.wellFormed_none (by simp [spelling])
  rw [← layout_spelling]
  exact Spelling.isReading_layout (wellFormed_spelling readable doubled) Blanks.wellFormed_none ends

theorem doubled_spelling_iff (expression : Expression) (doubled : Bool) :
    (expression.spelling doubled).Doubled ↔ doubled = true := by
  cases doubled <;> cases operator : expression.operator <;>
    simp [Spelling.Doubled, spelling, operator, Operator.part, Operator.doubledPart]

theorem radixDigits_spelling (readable : expression.Readable alphabet) (doubled : Bool) :
    ((expression.spelling doubled).radixDigits.map Numeral.readDecimal).getD 10 =
      expression.radix := by
  cases start : expression.start with
  | numeric number =>
    simp [Spelling.radixDigits, spelling, start, Numeral.readDecimal_decimal]
  | alphabetic word =>
    simp [Spelling.radixDigits, spelling, start, readable.decimal word start]

theorem denotes_spelling (readable : expression.Readable alphabet)
    (single : if doubled then expression.step = 1 else expression.offset = 0) :
    (expression.spelling doubled).Denotes expression := by
  have twice := doubled_spelling_iff expression doubled
  constructor
  · exact expression.start.value_part.symm
  · cases doubled <;> cases operator : expression.operator <;>
      simp [spelling, operator, Operator.part, Operator.doubledPart, OperatorPart.text]
  · simp only [twice]
    cases doubled with
    | true => exact single
    | false => exact (Numeral.readDecimal_decimal _).symm
  · simp only [twice]
    cases doubled with
    | true => exact (Numeral.readDecimal_decimal _).symm
    | false => exact single
  · exact (radixDigits_spelling readable doubled).symm
  · exact (Numeral.readDecimal_decimal _).symm
  · rfl
  · exact (Numeral.readDecimal_decimal _).symm
  · cases reorder : expression.reorder <;> cases plus : expression.showPlus <;>
      simp [spelling, writtenFlags, reorder, plus]
  · cases reorder : expression.reorder <;> cases plus : expression.showPlus <;>
      simp [spelling, writtenFlags, reorder, plus]

/-- The checks of the radix and the marker; a word is written without either. -/
theorem mode_faults_spelling (readable : expression.Readable alphabet) (doubled : Bool) :
    overflow .radix Numeral.maxShortWord (expression.spelling doubled).radixDigits = none ∧
      (expression.spelling doubled).radixOnLetters = none ∧
      (expression.spelling doubled).radixOutOfRange = none ∧
      (expression.spelling doubled).markerOnNumber = none := by
  have wide := readable.limits.wide
  have narrow := readable.limits.narrow
  cases start : expression.start with
  | numeric number =>
    have given : (expression.spelling doubled).radixDigits =
        some (Numeral.decimal expression.radix) := by
      simp [Spelling.radixDigits, spelling, start]
    refine ⟨?_, ?_, ?_, ?_⟩
    · rw [given]
      exact overflow_decimal_eq_none (Nat.le_trans narrow (by decide))
    · simp [Spelling.radixOnLetters, spelling, start, Start.part]
    · simp [Spelling.radixOutOfRange, given, Numeral.readDecimal_decimal, wide, narrow]
    · simp [Spelling.markerOnNumber, spelling, start, Start.part]
  | alphabetic word =>
    simp [overflow, Spelling.radixDigits, Spelling.radixOnLetters, Spelling.radixOutOfRange,
      Spelling.markerOnNumber, spelling, start, Start.part]

theorem firstFault?_spelling (readable : expression.Readable alphabet)
    (narrow : expression.width ≤ maxWidth) (doubled : Bool) :
    (expression.spelling doubled).firstFault? alphabet = none := by
  obtain ⟨radix, onLetters, outOfRange, onNumber⟩ := mode_faults_spelling readable doubled
  have limits := readable.limits
  have number : (if doubled then expression.offset else expression.step) ≤ Numeral.maxWord := by
    split
    · exact limits.offset
    · exact limits.step
  have width : (expression.spelling doubled).widthTooLarge = none := by
    simpa [Spelling.widthTooLarge, Spelling.widthDigits, spelling, Numeral.readDecimal_decimal]
      using narrow
  have zero : (expression.spelling doubled).zeroRepeat = none := by
    simpa [Spelling.zeroRepeat, Spelling.countDigits, spelling, Numeral.readDecimal_decimal]
      using Nat.ne_of_gt expression.repeats_pos
  apply List.findSome?_eq_none_iff.mpr
  simp only [Spelling.faults, List.forall_mem_cons, List.not_mem_nil, false_imp_iff, implies_true,
    and_true, id]
  exact ⟨Start.fault_part readable.start, overflow_decimal_eq_none number, radix, onLetters,
    outOfRange, onNumber, overflow_decimal_eq_none (Nat.le_trans narrow (by decide)), width,
    overflow_decimal_eq_none limits.repeats, zero⟩

/-! ## Reading the text -/

/-- A readable expression whose width may be written is what its text is read as. -/
theorem read_written_of_readable (readable : expression.Readable alphabet)
    (narrow : expression.width ≤ maxWidth)
    (single : if doubled then expression.step = 1 else expression.offset = 0) :
    read alphabet (expression.written doubled) = .ok expression :=
  read_eq_ok_of_denotes (isReading_spelling readable doubled)
    (firstFault?_spelling readable narrow doubled) (denotes_spelling readable single)

/-- Up to the largest width that may be written, the expressions with a text are the readable ones. -/
theorem exists_read_iff (narrow : expression.width ≤ maxWidth) :
    (∃ text, read alphabet text = .ok expression) ↔ expression.Readable alphabet := by
  constructor
  · rintro ⟨text, reads⟩
    exact readable_of_read reads
  · intro readable
    rcases readable.single with step | offset
    · exact ⟨expression.written true, read_written_of_readable readable narrow step⟩
    · exact ⟨expression.written false, read_written_of_readable readable narrow offset⟩

/-- Within the limits of its fields, an expression that is written is read back. A number is so in every
case, and a word exactly if its letters are those of the grammar and of the alphabet. -/
theorem read_written (alphabet : Alphabet) (doubled : Bool) (limits : expression.Limits)
    (narrow : expression.width ≤ maxWidth)
    (single : if doubled then expression.step = 1 else expression.offset = 0) :
    (∀ number, expression.start = .numeric number → Numeral.FitsWord number →
      read alphabet (expression.written doubled) = .ok expression) ∧
      ∀ word, expression.start = .alphabetic word → word ≠ [] → expression.radix = 10 →
        (read alphabet (expression.written doubled) = .ok expression ↔
          ∀ c ∈ word, Character.isWordLetter c = true ∧ alphabet.contains c = true) := by
  have alternative : expression.step = 1 ∨ expression.offset = 0 := by
    cases doubled with
    | true => exact .inl single
    | false => exact .inr single
  refine ⟨fun number numeric fits => ?_, fun word alphabetic filled decimal => ?_⟩
  · apply read_written_of_readable _ narrow single
    refine ⟨by rwa [numeric], limits, alternative, fun word alphabetic => ?_⟩
    rw [numeric] at alphabetic
    cases alphabetic
  · constructor
    · intro reads
      have start := (readable_of_read reads).start
      rw [alphabetic] at start
      exact fun c member => ⟨start.2.1 c member, start.2.2 c member⟩
    · intro letters
      apply read_written_of_readable _ narrow single
      refine ⟨?_, limits, alternative, fun _ _ => decimal⟩
      rw [alphabetic]
      exact ⟨filled, fun c member => (letters c member).1, fun c member => (letters c member).2⟩

/-- A colon as the fill of negative numbers, and a word that ends like a marker, with a slash as its fill
and an offset. -/
theorem read_written_fills :
    let downwards : Expression :=
      { ofStart (.numeric (-5)) with
        operator := .subtract, step := 3, radix := 16, fill := ':', width := 4, repeats := 2,
        repeats_pos := by decide, reorder := true, showPlus := true }
    let offset : Expression := { ofStart (.alphabetic ['b', 'a']) with offset := 7, fill := '/' }
    read .latin "-5-3#16::>4/2!@".toList = .ok downwards ∧
      read .latin "ba++7:/>0/1".toList = .ok offset := by
  intro downwards offset
  have text : downwards.written false = "-5-3#16::>4/2!@".toList := by
    simp [written, writtenStep, writtenRadix, writtenFlags, Start.written, Numeral.decimalInt,
      Numeral.decimal, Numeral.places, Numeral.digitChar, Operator.mark, downwards, ofStart]
  have text' : offset.written true = "ba++7:/>0/1".toList := by
    simp [written, writtenStep, writtenRadix, writtenFlags, Start.written, Numeral.decimal,
      Numeral.places, Numeral.digitChar, Operator.mark, offset, ofStart]
  have limits : downwards.Limits := by constructor <;> decide
  have limits' : offset.Limits := by constructor <;> decide
  have letters : ∀ c ∈ ['b', 'a'], Character.isWordLetter c = true :=
    List.all_eq_true.mp (by decide)
  have known : ∀ c ∈ ['b', 'a'], Alphabet.latin.contains c = true :=
    List.all_eq_true.mp (by decide)
  rw [← text, ← text']
  exact ⟨(read_written .latin false limits (by decide) rfl).1 (-5) rfl (by decide),
    ((read_written .latin true limits' (by decide) rfl).2 ['b', 'a'] rfl (by simp) rfl).mpr
      fun c member => ⟨letters c member, known c member⟩⟩

/-- An alphabet with a letter that is newer than the grammar. -/
def newer : Alphabet where
  letters := ['౜', 'a', 'b']
  two_le_length := by decide
  alphabetic := List.all_eq_true.mp (by decide)
  folds_nodup := by decide

/-- A word that is written with a letter of its alphabet is not read if the grammar does not know that
letter yet. -/
theorem read_written_newer :
    let expression : Expression :=
      { ofStart (.alphabetic ['౜']) with
        fill := '_', width := 3, repeats := 2, repeats_pos := by decide }
    Alphabet.ofLetters ['౜', 'a', 'b'] = .ok newer ∧ Character.isAlphabetic '౜' = true ∧
      newer.contains '౜' = true ∧ expression.written false = "౜+1:_>3/2".toList ∧
      read newer (expression.written false) = .error .grammar := by
  intro expression
  have text : expression.written false = "౜+1:_>3/2".toList := by
    simp [written, writtenStep, writtenRadix, writtenFlags, Start.written, Numeral.decimal,
      Numeral.places, Numeral.digitChar, Operator.mark, expression, ofStart]
  have refused : read newer "౜+1:_>3/2".toList = .error .grammar := by decide
  exact ⟨by decide, by decide, by decide, text, text ▸ refused⟩

end Expression

end Numbering
