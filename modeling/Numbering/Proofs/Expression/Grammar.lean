import Mathlib.Data.List.Basic
import Numbering.Expression.Parts

/-! # The grammar of written expressions

A text is an expression if it can be laid out as parts in their order, with white space wherever the
grammar allows it. `Spelling` holds the parts of such a layout as they are typed, also what `Parts`
leaves out: which letter is the marker, which of its two marks stands before a repeat, and whether
a `>` closes a fill that is not there. `Spelling.Writes` says that a text is laid out in this way.
Nothing here says how a layout is found, and a text may have several.
-/

namespace Numbering

def Text.IsBlank (text : Text) : Prop :=
  ∀ c ∈ text, Character.isWhiteSpace c = true

theorem Text.isBlank_nil : Text.IsBlank [] := by
  simp [IsBlank]

theorem Text.isBlank_append {front back : Text} :
    Text.IsBlank (front ++ back) ↔ front.IsBlank ∧ back.IsBlank :=
  List.forall_mem_append

/-- One or more decimal digits. -/
def Text.IsDigits (text : Text) : Prop :=
  text ≠ [] ∧ ∀ c ∈ text, c.isDigit = true

inductive ModeSpelling
  | radix (digits : Text)
  | marker (letter : Char)
  deriving DecidableEq, Repr

/-- Padding as it is typed: there may be a `>` in front of the width, and a fill in front of it. -/
structure PadSpelling where
  fill : Option (Option Char)
  width : Text
  deriving DecidableEq, Repr

structure RepeatSpelling where
  mark : Char
  digits : Text
  deriving DecidableEq, Repr

/-- The parts of an expression as they are typed; `flags` is empty if there are none. -/
structure Spelling where
  start : StartPart
  operator : Option OperatorPart
  step : Option Text
  mode : Option ModeSpelling
  pad : Option PadSpelling
  repeats : Option RepeatSpelling
  flags : Text
  deriving DecidableEq, Repr

/-! ## What each part may be -/

/-- A number is an optional sign and digits. The letters of a word are those of the pattern's own, older
edition of Alphabetic, `Character.isWordLetter`; `Character.isAlphabetic`, which alphabets go by, is
wider. -/
def StartPart.WellFormed : StartPart → Prop
  | .numeral sign digits => (∀ c ∈ sign, c = '+' ∨ c = '-') ∧ Text.IsDigits digits
  | .word letters => letters ≠ [] ∧ ∀ c ∈ letters, Character.isWordLetter c = true

def ModeSpelling.WellFormed : ModeSpelling → Prop
  | .radix digits => Text.IsDigits digits
  | .marker letter => letter = 'a' ∨ letter = 'A'

def PadSpelling.WellFormed (pad : PadSpelling) : Prop :=
  pad.fill ≠ some (some '>') ∧ Text.IsDigits pad.width

def RepeatSpelling.WellFormed (repeats : RepeatSpelling) : Prop :=
  (repeats.mark = '/' ∨ repeats.mark = '^') ∧ Text.IsDigits repeats.digits

structure Spelling.WellFormed (spelling : Spelling) : Prop where
  start : spelling.start.WellFormed
  step : ∀ digits ∈ spelling.step, Text.IsDigits digits
  mode : ∀ mode ∈ spelling.mode, mode.WellFormed
  pad : ∀ pad ∈ spelling.pad, pad.WellFormed
  repeats : ∀ repeats ∈ spelling.repeats, repeats.WellFormed
  flags : ∀ c ∈ spelling.flags, c = '!' ∨ c = '@'

/-! ## How the parts are typed -/

def StartPart.text : StartPart → Text
  | .numeral sign digits => sign.toList ++ digits
  | .word letters => letters

def OperatorPart.text : OperatorPart → Text
  | .plusPlus => ['+', '+']
  | .minusMinus => ['-', '-']
  | .plus => ['+']
  | .minus => ['-']

def ModeSpelling.text : ModeSpelling → Text
  | .radix digits => '#' :: digits
  | .marker letter => [letter]

def PadSpelling.text (pad : PadSpelling) : Text :=
  match pad.fill with
  | none => ':' :: pad.width
  | some none => ':' :: '>' :: pad.width
  | some (some c) => ':' :: c :: '>' :: pad.width

/-- A repeat, with the white space between its mark and its digits. -/
def RepeatSpelling.text (blank : Text) (repeats : RepeatSpelling) : Text :=
  repeats.mark :: (blank ++ repeats.digits)

/-- A part that may be absent, which then leaves no characters. -/
def typed {α : Type} (text : α → Text) (part : Option α) : Text :=
  part.elim [] text

/-- The runs of white space of a layout: at both ends, in front of every part but the padding, and
behind the mark of a repeat. -/
structure Blanks where
  first : Text
  operator : Text
  step : Text
  mode : Text
  repeats : Text
  count : Text
  flags : Text
  last : Text

structure Blanks.WellFormed (blanks : Blanks) : Prop where
  first : blanks.first.IsBlank
  operator : blanks.operator.IsBlank
  step : blanks.step.IsBlank
  mode : blanks.mode.IsBlank
  repeats : blanks.repeats.IsBlank
  count : blanks.count.IsBlank
  flags : blanks.flags.IsBlank
  last : blanks.last.IsBlank

/-- The parts in their order with the white space around them. -/
def Spelling.layout (spelling : Spelling) (blanks : Blanks) : Text :=
  blanks.first ++ spelling.start.text ++
  blanks.operator ++ typed OperatorPart.text spelling.operator ++
  blanks.step ++ typed id spelling.step ++
  blanks.mode ++ typed ModeSpelling.text spelling.mode ++
  typed PadSpelling.text spelling.pad ++
  blanks.repeats ++ typed (RepeatSpelling.text blanks.count) spelling.repeats ++
  blanks.flags ++ spelling.flags ++ blanks.last

/-- A text is laid out from the parts of a spelling. -/
def Spelling.Writes (spelling : Spelling) (text : Text) : Prop :=
  spelling.WellFormed ∧ ∃ blanks : Blanks, blanks.WellFormed ∧ text = spelling.layout blanks

/-- Of all layouts of a text, one whose start is as long as can be. -/
def Spelling.IsReading (spelling : Spelling) (text : Text) : Prop :=
  spelling.Writes text ∧ ∀ other : Spelling, other.Writes text →
    other.start.text.length ≤ spelling.start.text.length

def Blanks.none : Blanks :=
  ⟨[], [], [], [], [], [], [], []⟩

theorem Blanks.wellFormed_none : Blanks.none.WellFormed := by
  constructor <;> simp [none, Text.IsBlank]

/-! ## What a typed part stands for -/

def Operator.mark : Operator → Char
  | .add => '+'
  | .subtract => '-'

def Operator.part : Operator → OperatorPart
  | .add => .plus
  | .subtract => .minus

def Operator.doubledPart : Operator → OperatorPart
  | .add => .plusPlus
  | .subtract => .minusMinus

theorem Operator.text_part (operator : Operator) : operator.part.text = [operator.mark] := by
  cases operator <;> rfl

theorem Operator.text_doubledPart (operator : Operator) :
    operator.doubledPart.text = [operator.mark, operator.mark] := by
  cases operator <;> rfl

def ModeSpelling.part : ModeSpelling → ModePart
  | .radix digits => .radix digits
  | .marker _ => .marker

def PadSpelling.part (pad : PadSpelling) : PadPart :=
  ⟨pad.fill.join, pad.width⟩

/-- The parts that a spelling stands for. -/
def Spelling.parts (spelling : Spelling) : Parts where
  start := spelling.start
  operator := spelling.operator
  step := spelling.step
  mode := spelling.mode.map ModeSpelling.part
  pad := spelling.pad.map PadSpelling.part
  repeats := spelling.repeats.map RepeatSpelling.digits
  flags := spelling.flags

end Numbering
