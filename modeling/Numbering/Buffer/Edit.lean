import Numbering.Buffer.Lines

/-! # Edits

An edit puts a text in place of a target. A batch of edits is applied as a whole or refused as a
whole: all targets are places in the buffer as it was, and no two of them overlap. Edits may be
listed in any order; those at one place keep the order in which they are listed, and a cursor at the
start of a stretch inserts in front of it.
-/

namespace Numbering

/-- A text to put in place of a target. -/
structure Edit where
  target : Target
  text : Text
  deriving DecidableEq, Repr

inductive EditError
  | outOfBounds (position : Position)
  | reversed (target : Target)
  | overlap (first second : Target)
  deriving DecidableEq, Repr

/-- The fault in words. -/
def EditError.message : EditError → String
  | .outOfBounds position =>
    let shown := String.ofList position.render
    s!"position {shown} is outside the buffer"
  | .reversed target =>
    let shown := String.ofList target.render
    s!"range {shown} ends before it starts"
  | .overlap first second =>
    let earlier := String.ofList first.render
    let later := String.ofList second.render
    s!"ranges {earlier} and {later} overlap"

namespace Buffer

/-- An edit with the stretch of the buffer that its target names. -/
structure Placed where
  span : Span
  edit : Edit
  deriving DecidableEq, Repr

/-- Order of stretches: by start, and of those that start together by end. -/
def Placed.precedes (first second : Placed) : Bool :=
  decide (first.span.start < second.span.start ∨
    first.span.start = second.span.start ∧ first.span.stop ≤ second.span.stop)

/-- The offset of a position, or the fault that it lies outside the buffer. -/
def resolve (spans : List Span) (position : Position) : Except EditError Nat :=
  match offsetIn? spans position with
  | some offset => .ok offset
  | none => .error (.outOfBounds position)

/-- The stretch of an edit in a buffer with the given lines. -/
def place (spans : List Span) (edit : Edit) : Except EditError Placed := do
  if edit.target.stop < edit.target.start then .error (.reversed edit.target)
  else
    let start ← resolve spans edit.target.start
    let stop ← resolve spans edit.target.stop
    return ⟨⟨start, stop⟩, edit⟩

/-- The first neighbours of which the second begins before the first has ended. -/
def firstOverlap? : List Placed → Option (Target × Target)
  | first :: second :: rest =>
    if second.span.start < first.span.stop then some (first.edit.target, second.edit.target)
    else firstOverlap? (second :: rest)
  | _ => none

/-- The text from an offset on, with the stretches of the edits replaced. -/
def splice (offset : Nat) (rest : Text) : List Placed → Text
  | [] => rest
  | placed :: others =>
    rest.take (placed.span.start - offset) ++ placed.edit.text ++
      splice placed.span.stop (rest.drop (placed.span.stop - offset)) others

/-- The buffer with all edits applied at once. -/
def apply (buffer : Text) (edits : List Edit) : Except EditError Text := do
  let placed ← edits.mapM (place (lineSpans buffer))
  let sorted := placed.mergeSort Placed.precedes
  match firstOverlap? sorted with
  | some (first, second) => .error (.overlap first second)
  | none => .ok (splice 0 buffer sorted)

end Buffer

end Numbering
