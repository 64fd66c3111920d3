import Numbering.Expression.Reading
import Numbering.Proofs.Expression.Grammar

/-! # The checks of a spelling and what it denotes

Every check is stated on its own, as the fault that a spelling has if it fails it, and `faults`
lists them in the order in which they count. Parts are interpreted as that list says: the first
fault is the answer, and without one there is an expression whose fields are those that the spelling
`Denotes`.
-/

namespace Numbering

/-- The integer that a sign and decimal digits stand for. -/
def signedValue (sign : Option Char) (digits : Text) : Int :=
  if sign = some '-' then -(Numeral.readDecimal digits : Int) else Numeral.readDecimal digits

/-- The fault of a literal above the limit of its field. -/
def overflow (field : NumberField) (limit : Nat) (literal : Option Text) : Option Rejection :=
  literal.bind fun digits =>
    if limit < Numeral.readDecimal digits then some (.outOfRange field digits) else none

/-- The fault of a number outside the signed words, or of the first letter that the alphabet does
not have. -/
def StartPart.fault (alphabet : Alphabet) : StartPart → Option Rejection
  | .numeral sign digits =>
    if Numeral.FitsWord (signedValue sign digits) then none
    else some (.outOfRange .start (sign.toList ++ digits))
  | .word letters =>
    (letters.find? fun letter => !alphabet.contains letter).map .letterOutsideAlphabet

/-- The start that a written one stands for: the decimal value, or the letters as typed. -/
def StartPart.value : StartPart → Start
  | .numeral sign digits => .numeric (signedValue sign digits)
  | .word letters => .alphabetic letters

theorem Operator.eq_of_subtract_iff {one two : Operator} (same : one = .subtract ↔ two = .subtract) :
    one = two := by
  cases one <;> cases two <;> simp at same <;> rfl

namespace Spelling

/-- The digits of the radix, if there is one. -/
def radixDigits (spelling : Spelling) : Option Text :=
  match spelling.mode with
  | some (.radix digits) => some digits
  | _ => none

def radixOnLetters (spelling : Spelling) : Option Rejection :=
  match spelling.start, spelling.mode with
  | .word _, some (.radix _) => some .radixOnLetters
  | _, _ => none

def radixOutOfRange (spelling : Spelling) : Option Rejection :=
  spelling.radixDigits.bind fun digits =>
    let radix := Numeral.readDecimal digits
    if 2 ≤ radix ∧ radix ≤ 36 then none else some (.radixOutOfRange radix)

def markerOnNumber (spelling : Spelling) : Option Rejection :=
  match spelling.start, spelling.mode with
  | .numeral _ _, some (.marker _) => some .markerOnNumber
  | _, _ => none

def widthDigits (spelling : Spelling) : Option Text :=
  spelling.pad.map PadSpelling.width

def widthTooLarge (spelling : Spelling) : Option Rejection :=
  spelling.widthDigits.bind fun digits =>
    let width := Numeral.readDecimal digits
    if maxWidth < width then some (.widthTooLarge width) else none

def countDigits (spelling : Spelling) : Option Text :=
  spelling.repeats.map RepeatSpelling.digits

def zeroRepeat (spelling : Spelling) : Option Rejection :=
  spelling.countDigits.bind fun digits =>
    if Numeral.readDecimal digits = 0 then some .zeroRepeat else none

/-- The faults of all checks, in the order in which they count. -/
def faults (alphabet : Alphabet) (spelling : Spelling) : List (Option Rejection) :=
  [spelling.start.fault alphabet,
    overflow .step Numeral.maxWord spelling.step,
    overflow .radix Numeral.maxShortWord spelling.radixDigits,
    spelling.radixOnLetters,
    spelling.radixOutOfRange,
    spelling.markerOnNumber,
    overflow .width Numeral.maxWord spelling.widthDigits,
    spelling.widthTooLarge,
    overflow .repeats Numeral.maxWord spelling.countDigits,
    spelling.zeroRepeat]

/-- The fault of the first check that a spelling fails. -/
def firstFault? (alphabet : Alphabet) (spelling : Spelling) : Option Rejection :=
  (spelling.faults alphabet).findSome? id

theorem eq_none_of_mem_faults {alphabet : Alphabet} {spelling : Spelling}
    (free : spelling.firstFault? alphabet = none) {fault : Option Rejection}
    (checked : fault ∈ spelling.faults alphabet) : fault = none :=
  List.findSome?_eq_none_iff.mp free fault checked

/-- Whether the operator is doubled, so that the number behind it is an offset. -/
def Doubled (spelling : Spelling) : Prop :=
  spelling.operator = some .plusPlus ∨ spelling.operator = some .minusMinus

instance (spelling : Spelling) : Decidable spelling.Doubled := by
  unfold Doubled
  infer_instance

/-- The width that a start asks for: the number of its digits if they begin with zero. -/
def startWidth (spelling : Spelling) : Nat :=
  match spelling.start with
  | .numeral _ digits => if digits.head? = some '0' then digits.length else 0
  | .word _ => 0

def startFill (spelling : Spelling) : Char :=
  match spelling.start with
  | .numeral _ _ => '0'
  | .word _ => ' '

/-- The fields of the expression that a spelling stands for. -/
structure Denotes (spelling : Spelling) (expression : Expression) : Prop where
  start : expression.start = spelling.start.value
  operator : expression.operator = .subtract ↔
    ∃ operator ∈ spelling.operator, operator.text.head? = some '-'
  step : expression.step =
    if spelling.Doubled then 1 else (spelling.step.map Numeral.readDecimal).getD 1
  offset : expression.offset =
    if spelling.Doubled then (spelling.step.map Numeral.readDecimal).getD 0 else 0
  radix : expression.radix = (spelling.radixDigits.map Numeral.readDecimal).getD 10
  width : expression.width =
    (spelling.widthDigits.map Numeral.readDecimal).getD spelling.startWidth
  fill : expression.fill = (spelling.pad.bind fun pad => pad.fill.join).getD spelling.startFill
  repeats : expression.repeats = (spelling.countDigits.map Numeral.readDecimal).getD 1
  reorder : expression.reorder = true ↔ '!' ∈ spelling.flags
  showPlus : expression.showPlus = true ↔ '@' ∈ spelling.flags

/-- A spelling denotes one expression only. -/
theorem Denotes.unique {spelling : Spelling} {one two : Expression}
    (denotes : spelling.Denotes one) (denotes' : spelling.Denotes two) : one = two := by
  have operator := Operator.eq_of_subtract_iff (denotes.operator.trans denotes'.operator.symm)
  have reorder := Bool.eq_iff_iff.mpr (denotes.reorder.trans denotes'.reorder.symm)
  have showPlus := Bool.eq_iff_iff.mpr (denotes.showPlus.trans denotes'.showPlus.symm)
  have start := denotes.start.trans denotes'.start.symm
  have step := denotes.step.trans denotes'.step.symm
  have offset := denotes.offset.trans denotes'.offset.symm
  have radix := denotes.radix.trans denotes'.radix.symm
  have width := denotes.width.trans denotes'.width.symm
  have fill := denotes.fill.trans denotes'.fill.symm
  have repeats := denotes.repeats.trans denotes'.repeats.symm
  obtain ⟨⟩ := one
  obtain ⟨⟩ := two
  dsimp only at *
  subst operator reorder showPlus start step offset radix width fill repeats
  rfl

end Spelling

/-- The expression that a spelling stands for, given its repeat. -/
def Spelling.expression (spelling : Spelling) (count : Nat) (positive : 0 < count) :
    Expression where
  start := spelling.start.value
  operator := (spelling.operator.map OperatorPart.direction).getD .add
  step := if spelling.Doubled then 1 else (spelling.step.map Numeral.readDecimal).getD 1
  offset := if spelling.Doubled then (spelling.step.map Numeral.readDecimal).getD 0 else 0
  radix := (spelling.radixDigits.map Numeral.readDecimal).getD 10
  fill := (spelling.pad.bind fun pad => pad.fill.join).getD spelling.startFill
  width := (spelling.widthDigits.map Numeral.readDecimal).getD spelling.startWidth
  repeats := count
  repeats_pos := positive
  reorder := spelling.flags.contains '!'
  showPlus := spelling.flags.contains '@'

/-! ## Stages that stop at the first fault -/

/-- A value, unless some check has a fault: then the first one. -/
def settle {α : Type} (faults : List (Option Rejection)) (value : α) : Except Rejection α :=
  match faults.findSome? id with
  | some rejection => .error rejection
  | none => .ok value

section Settle
variable {α β : Type} {first second : List (Option Rejection)} {value : α}

theorem settle_eq_error_iff {rejection : Rejection} :
    settle first value = .error rejection ↔ first.findSome? id = some rejection := by
  unfold settle
  cases first.findSome? id <;> simp

theorem settle_eq_ok_iff {result : α} :
    settle first value = .ok result ↔ first.findSome? id = none ∧ value = result := by
  unfold settle
  cases first.findSome? id <;> simp

theorem settle_bind {result : β} {next : α → Except Rejection β}
    (continues : next value = settle second result) :
    (settle first value >>= next) = settle (first ++ second) result := by
  unfold settle
  rw [List.findSome?_append]
  cases first.findSome? id with
  | none => exact continues
  | some rejection => rfl

theorem settle_map (f : α → β) : (settle first value).map f = settle first (f value) := by
  unfold settle
  cases first.findSome? id <;> rfl

end Settle

namespace Parts

theorem readField_eq (field : NumberField) (limit : Nat) {digits : Text}
    (formed : digits.IsDigits) : readField field limit digits =
      settle [overflow field limit (some digits)] (Numeral.readDecimal digits) := by
  obtain ⟨nonempty, all⟩ := formed
  have digital : digits.all Char.isDigit = true := List.all_eq_true.mpr all
  by_cases high : limit < Numeral.readDecimal digits
  · simp [readField, Numeral.readDigits?, nonempty, digital, overflow, settle, high,
      Nat.not_le_of_lt high]
  · simp [readField, Numeral.readDigits?, nonempty, digital, overflow, settle, high,
      Nat.le_of_not_lt high]

theorem readOptional_eq (field : NumberField) (limit : Nat) {literal : Option Text}
    (formed : ∀ digits ∈ literal, Text.IsDigits digits) : readOptional field limit literal =
      settle [overflow field limit literal] (literal.map Numeral.readDecimal) := by
  cases literal with
  | none => rfl
  | some digits =>
    rw [readOptional, readField_eq field limit (formed digits rfl), settle_map]
    rfl

theorem readStart_eq (alphabet : Alphabet) (start : StartPart) :
    readStart alphabet start = settle [start.fault alphabet] start.value := by
  cases start with
  | numeral sign digits =>
    change (if Numeral.FitsWord (signedValue sign digits) then
      Except.ok (Start.numeric (signedValue sign digits)) else _) = _
    by_cases fits : Numeral.FitsWord (signedValue sign digits)
    · simp [StartPart.fault, settle, StartPart.value, fits]
    · simp [StartPart.fault, settle, fits]
  | word letters =>
    rw [readStart, StartPart.fault]
    cases letters.find? fun letter => !alphabet.contains letter <;> rfl

variable {spelling : Spelling}

theorem readRadix_eq (formed : spelling.WellFormed) :
    readRadix spelling.start.value (spelling.mode.map ModeSpelling.part) =
      settle [overflow .radix Numeral.maxShortWord spelling.radixDigits, spelling.radixOnLetters,
          spelling.radixOutOfRange, spelling.markerOnNumber]
        ((spelling.radixDigits.map Numeral.readDecimal).getD 10) := by
  rcases mode : spelling.mode with _ | (digits | letter)
  · simp [readRadix, settle, Spelling.radixDigits, Spelling.radixOnLetters,
      Spelling.radixOutOfRange, Spelling.markerOnNumber, overflow, mode]
  · have given : spelling.radixDigits = some digits := by rw [Spelling.radixDigits, mode]
    have written := readField_eq .radix Numeral.maxShortWord (formed.mode _ mode)
    rw [given]
    change (readField .radix Numeral.maxShortWord digits >>= _) = _
    rw [written]
    refine settle_bind ?_
    cases start : spelling.start with
    | numeral sign others =>
      simp only [Spelling.radixOnLetters, Spelling.radixOutOfRange, Spelling.markerOnNumber, start,
        mode, given]
      by_cases fits : 2 ≤ Numeral.readDecimal digits ∧ Numeral.readDecimal digits ≤ 36
      · simp [settle, StartPart.value, fits]
      · simp [settle, StartPart.value, fits]
    | word letters =>
      simp [settle, Spelling.radixOnLetters, StartPart.value, start, mode]
  · cases start : spelling.start <;>
      simp [readRadix, settle, Spelling.radixDigits, Spelling.radixOnLetters,
        Spelling.radixOutOfRange, Spelling.markerOnNumber, overflow, mode, start, StartPart.value,
        ModeSpelling.part]

theorem readWidth_eq (formed : spelling.WellFormed) :
    readWidth spelling.parts =
      settle [overflow .width Numeral.maxWord spelling.widthDigits, spelling.widthTooLarge]
        ((spelling.widthDigits.map Numeral.readDecimal).getD spelling.startWidth) := by
  have same : spelling.parts.pad.map PadPart.width = spelling.widthDigits := by
    rw [Spelling.parts, Option.map_map]
    rfl
  have formedWidth : ∀ digits ∈ spelling.widthDigits, Text.IsDigits digits := by
    intro digits given
    obtain ⟨pad, padded, rfl⟩ := Option.map_eq_some_iff.mp given
    exact (formed.pad pad padded).2
  rw [readWidth, same, readOptional_eq _ _ formedWidth]
  refine settle_bind ?_
  cases given : spelling.widthDigits with
  | none =>
    have implied : impliedWidth spelling.parts.start = spelling.startWidth := by
      rw [Spelling.parts, Spelling.startWidth]
      cases spelling.start <;> rfl
    simp [settle, Spelling.widthTooLarge, given, implied]
  | some digits =>
    simp only [Spelling.widthTooLarge, given]
    by_cases high : maxWidth < Numeral.readDecimal digits
    · simp [settle, high]
    · simp [settle, high]

theorem exists_readRepeats_eq (formed : spelling.WellFormed) :
    ∃ count : { count : Nat // 0 < count },
      readRepeats spelling.parts.repeats =
        settle [overflow .repeats Numeral.maxWord spelling.countDigits, spelling.zeroRepeat] count ∧
      (spelling.zeroRepeat = none →
        count.val = (spelling.countDigits.map Numeral.readDecimal).getD 1) := by
  have formedCount : ∀ digits ∈ spelling.countDigits, Text.IsDigits digits := by
    intro digits given
    obtain ⟨repeats, repeated, rfl⟩ := Option.map_eq_some_iff.mp given
    exact (formed.repeats repeats repeated).2
  change ∃ count, readRepeats spelling.countDigits = _ ∧ _
  cases given : spelling.countDigits with
  | none =>
    refine ⟨⟨1, by decide⟩, ?_, fun _ => rfl⟩
    rw [Spelling.zeroRepeat, given]
    rfl
  | some digits =>
    have number := readOptional_eq .repeats Numeral.maxWord formedCount
    rw [given] at number
    by_cases positive : 0 < Numeral.readDecimal digits
    · refine ⟨⟨_, positive⟩, ?_, fun _ => rfl⟩
      rw [readRepeats, number]
      refine settle_bind ?_
      simp [settle, Spelling.zeroRepeat, given, positive, Nat.ne_of_gt positive]
    · have zero : Numeral.readDecimal digits = 0 := by omega
      have fault : spelling.zeroRepeat = some .zeroRepeat := by
        simp [Spelling.zeroRepeat, given, zero]
      refine ⟨⟨1, by decide⟩, ?_, fun free => by simp [fault] at free⟩
      rw [readRepeats, number]
      refine settle_bind ?_
      simp [settle, fault, zero]

/-- Whether the operator of a spelling begins with a minus sign. -/
theorem direction_eq_subtract_iff (operator : Option OperatorPart) :
    (operator.map OperatorPart.direction).getD .add = .subtract ↔
      ∃ value ∈ operator, value.text.head? = some '-' := by
  rcases operator with _ | (_ | _ | _ | _) <;> simp [OperatorPart.direction, OperatorPart.text]

theorem isDoubled_iff (spelling : Spelling) :
    spelling.operator.any OperatorPart.isDoubled = true ↔ spelling.Doubled := by
  rw [Spelling.Doubled]
  rcases spelling.operator with _ | (_ | _ | _ | _) <;> simp [OperatorPart.isDoubled]

/-- Parts are interpreted up to the first fault, and otherwise as what their spelling denotes. -/
theorem exists_interpret_eq (alphabet : Alphabet) (formed : spelling.WellFormed) :
    ∃ expression, spelling.parts.interpret alphabet = settle (spelling.faults alphabet) expression ∧
      (spelling.firstFault? alphabet = none → spelling.Denotes expression) := by
  obtain ⟨count, repeated, counted⟩ := exists_readRepeats_eq formed
  refine ⟨spelling.expression count.val count.property, ?_, fun free => ?_⟩
  · have start := readStart_eq alphabet spelling.start
    have step := readOptional_eq .step Numeral.maxWord formed.step
    change (readStart alphabet spelling.start >>= _) = _
    rw [start]
    refine settle_bind ?_
    change (readOptional .step Numeral.maxWord spelling.step >>= _) = _
    rw [step]
    refine settle_bind ?_
    change (readRadix spelling.start.value (spelling.mode.map ModeSpelling.part) >>= _) = _
    rw [readRadix_eq formed]
    refine settle_bind ?_
    rw [readWidth_eq formed]
    refine settle_bind ?_
    rw [repeated]
    refine settle_bind (?_ : _ = settle [] _)
    have fill : (spelling.parts.pad.bind PadPart.fill).getD
        (Expression.defaultFill spelling.start.value) =
          (spelling.pad.bind fun pad => pad.fill.join).getD spelling.startFill := by
      rw [Spelling.parts, Option.bind_map, Spelling.startFill]
      cases spelling.start <;> rfl
    have doubled := isDoubled_iff spelling
    simp only [settle, Spelling.expression, ← fill, ← doubled]
    rfl
  · have last : spelling.zeroRepeat ∈ spelling.faults alphabet := by simp [Spelling.faults]
    have zero : spelling.zeroRepeat = none := Spelling.eq_none_of_mem_faults free last
    exact {
      start := rfl
      operator := direction_eq_subtract_iff spelling.operator
      step := rfl
      offset := rfl
      radix := rfl
      width := rfl
      fill := rfl
      repeats := counted zero
      reorder := List.contains_iff_mem
      showPlus := List.contains_iff_mem }

theorem interpret_eq_ok_of_denotes {alphabet : Alphabet} {expression : Expression}
    (formed : spelling.WellFormed) (free : spelling.firstFault? alphabet = none)
    (denotes : spelling.Denotes expression) :
    spelling.parts.interpret alphabet = .ok expression := by
  obtain ⟨result, settled, denoted⟩ := exists_interpret_eq alphabet formed
  rw [settled, settle_eq_ok_iff]
  exact ⟨free, (denoted free).unique denotes⟩

end Parts

/-! ## No check is about the grammar -/

theorem overflow_ne_grammar (field : NumberField) (limit : Nat) (literal : Option Text) :
    overflow field limit literal ≠ some .grammar := by
  rw [overflow]
  cases literal with
  | none => simp
  | some digits =>
    rw [Option.bind_some]
    split <;> simp

theorem StartPart.fault_ne_grammar (alphabet : Alphabet) (start : StartPart) :
    start.fault alphabet ≠ some .grammar := by
  cases start with
  | numeral sign digits =>
    rw [StartPart.fault]
    split <;> simp
  | word letters => simp [StartPart.fault]

theorem Spelling.firstFault?_ne_grammar (alphabet : Alphabet) (spelling : Spelling) :
    spelling.firstFault? alphabet ≠ some .grammar := by
  intro first
  obtain ⟨fault, member, same⟩ := List.exists_of_findSome?_eq_some first
  obtain rfl : fault = some .grammar := same
  simp only [faults, List.mem_cons, List.not_mem_nil, or_false] at member
  rcases member with same | same | same | same | same | same | same | same | same | same
  · exact StartPart.fault_ne_grammar _ _ same.symm
  · exact overflow_ne_grammar _ _ _ same.symm
  · exact overflow_ne_grammar _ _ _ same.symm
  · rw [radixOnLetters] at same
    split at same <;> simp at same
  · obtain ⟨digits, -, other⟩ := Option.bind_eq_some_iff.mp same.symm
    simp at other
  · rw [markerOnNumber] at same
    split at same <;> simp at same
  · exact overflow_ne_grammar _ _ _ same.symm
  · obtain ⟨digits, -, other⟩ := Option.bind_eq_some_iff.mp same.symm
    simp at other
  · exact overflow_ne_grammar _ _ _ same.symm
  · obtain ⟨digits, -, other⟩ := Option.bind_eq_some_iff.mp same.symm
    simp at other

end Numbering
