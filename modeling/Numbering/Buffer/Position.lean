import Numbering.Numeral

/-! # Positions and targets

A position is a line and a column, both counted from zero, the column in characters. Positions are
in reading order: by line, then by column. A target is the stretch between two positions; one that
has no extent is a cursor.
-/

namespace Numbering

/-- A place between two characters of a buffer. -/
structure Position where
  line : Nat
  column : Nat
  deriving DecidableEq, Repr

namespace Position

instance : LT Position :=
  ⟨fun first second =>
    first.line < second.line ∨ first.line = second.line ∧ first.column < second.column⟩

instance : LE Position :=
  ⟨fun first second =>
    first.line < second.line ∨ first.line = second.line ∧ first.column ≤ second.column⟩

theorem lt_iff {first second : Position} :
    first < second ↔
      first.line < second.line ∨ first.line = second.line ∧ first.column < second.column :=
  Iff.rfl

theorem le_iff {first second : Position} :
    first ≤ second ↔
      first.line < second.line ∨ first.line = second.line ∧ first.column ≤ second.column :=
  Iff.rfl

instance (first second : Position) : Decidable (first < second) :=
  decidable_of_iff _ lt_iff.symm

instance (first second : Position) : Decidable (first ≤ second) :=
  decidable_of_iff _ le_iff.symm

theorem not_lt {first second : Position} : ¬ first < second ↔ second ≤ first := by
  rw [lt_iff, le_iff]
  omega

def next (position : Position) (c : Char) : Position :=
  if c = '\n' then ⟨position.line + 1, 0⟩ else ⟨position.line, position.column + 1⟩

def render (position : Position) : Text :=
  Numeral.decimal position.line ++ [':'] ++ Numeral.decimal position.column

end Position

/-- The stretch from one position to another. -/
structure Target where
  start : Position
  stop : Position
  deriving DecidableEq, Repr

namespace Target

/-- The target between two positions in either order. -/
def between (first second : Position) : Target :=
  if first ≤ second then ⟨first, second⟩ else ⟨second, first⟩

/-- The target of no extent at a position. -/
def cursor (position : Position) : Target :=
  ⟨position, position⟩

def isCursor (target : Target) : Bool :=
  decide (target.start = target.stop)

/-- Reading order of targets: by start, and of those that start together by end. -/
def precedes (first second : Target) : Bool :=
  decide (first.start < second.start ∨ first.start = second.start ∧ first.stop ≤ second.stop)

/-- A cursor as its position, any other target as its two ends with two points between them. -/
def render (target : Target) : Text :=
  if target.isCursor then target.start.render
  else target.start.render ++ ['.', '.'] ++ target.stop.render

end Target

/-! ## Reading targets

A target is written as one position, for a cursor, or as two with two points between them, in either
order. A position is a line and a column with a colon between them; white space may stand around
each number, and a plus sign before it. Reading takes back what `Target.render` writes.
-/

/-- The position that a text writes. -/
def Position.read? (text : Text) : Option Position := do
  let (line, column) ← Text.splitOnce? [':'] (Text.trim text)
  let line ← Numeral.readUnsigned? Numeral.maxWord (Text.trim line)
  let column ← Numeral.readUnsigned? Numeral.maxWord (Text.trim column)
  return ⟨line, column⟩

/-- The target that a text writes. -/
def Target.read? (text : Text) : Option Target :=
  match Text.splitOnce? ['.', '.'] text with
  | some (first, second) => do
    let first ← Position.read? first
    let second ← Position.read? second
    return Target.between first second
  | none => (Position.read? text).map Target.cursor

end Numbering
