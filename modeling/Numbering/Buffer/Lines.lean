import Numbering.Buffer.Position

/-! # The lines of a buffer

A buffer has one line more than it has line feeds. The content of a line ends before its line feed,
and before a carriage return that stands right in front of that line feed. A position is valid if
its line exists and its column lies within the content of the line, both ends included; the valid
positions are those that have an offset.
-/

namespace Numbering.Buffer

/-- A stretch of a buffer from one offset to another. -/
structure Span where
  start : Nat
  stop : Nat
  deriving DecidableEq, Repr

/-- The texts between the line feeds of a buffer. -/
def lines : Text → List Text
  | [] => [[]]
  | c :: rest =>
    if c = '\n' then [] :: lines rest
    else
      match lines rest with
      | [] => [[c]]
      | first :: others => (c :: first) :: others

/-- The number of characters before the line end, which may begin with a carriage return. -/
def contentLength (line : Text) : Nat :=
  if line.getLast? = some '\r' then line.length - 1 else line.length

/-- The contents of lines of which the first begins at an offset; the last has no line end. -/
def spansFrom (offset : Nat) : List Text → List Span
  | [] => []
  | [last] => [⟨offset, offset + last.length⟩]
  | line :: rest => ⟨offset, offset + contentLength line⟩ :: spansFrom (offset + line.length + 1) rest

def lineSpans (buffer : Text) : List Span :=
  spansFrom 0 (lines buffer)

def offsetIn? (spans : List Span) (position : Position) : Option Nat := do
  let span ← spans[position.line]?
  if span.start + position.column ≤ span.stop then some (span.start + position.column) else none

/-- The offset of a valid position. -/
def offset? (buffer : Text) (position : Position) : Option Nat :=
  offsetIn? (lineSpans buffer) position

/-- The position of an offset: the line feeds before it, and the characters after the last one. -/
def positionAt (buffer : Text) (offset : Nat) : Position :=
  (buffer.take offset).foldl Position.next ⟨0, 0⟩

/-- A buffer always has a line. -/
theorem lines_ne_nil (buffer : Text) : lines buffer ≠ [] := by
  cases buffer with
  | nil => simp [lines]
  | cons c rest =>
    unfold lines
    split
    · simp
    · split <;> simp

/-! ## Markers

A marker is a text that stands for a target wherever it occurs in a buffer. Occurrences are found
from the left and do not overlap: the search goes on behind each one. The empty marker occurs
nowhere.
-/

/-- The offsets of the occurrences of a marker in a text that begins at `offset`, of which the first
`covered` characters belong to an earlier occurrence. -/
def occurrencesFrom (marker : Text) (covered offset : Nat) : Text → List Nat
  | [] => []
  | c :: rest =>
    match covered with
    | more + 1 => occurrencesFrom marker more (offset + 1) rest
    | 0 =>
      if marker.isPrefixOf (c :: rest) then
        offset :: occurrencesFrom marker (marker.length - 1) (offset + 1) rest
      else occurrencesFrom marker 0 (offset + 1) rest

/-- The offsets at which a marker occurs, found from the left and without overlap. -/
def occurrences (buffer marker : Text) : List Nat :=
  if marker.isEmpty then [] else occurrencesFrom marker 0 0 buffer

def markers (buffer marker : Text) : List Target :=
  (occurrences buffer marker).map fun offset =>
    Target.between (positionAt buffer offset) (positionAt buffer (offset + marker.length))

end Numbering.Buffer
