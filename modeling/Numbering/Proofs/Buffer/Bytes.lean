import Numbering.Proofs.Buffer.Batch
import Numbering.Proofs.Buffer.Positions
import Numbering.Proofs.Text.Bytes

/-! # Editing a buffer that is kept in bytes

A host that keeps its buffer as UTF-8 finds the starts of the lines, the spans of the edits and the
pieces between them as offsets in bytes, and takes a slice for each of them. A slice whose bounds
are out of order or inside a character would be an error of its own, `Halt.badSlice`. `apply_eq`
says that this never happens: editing by bytes gives what editing by characters gives, for every
buffer and every batch, refusals included. `resolve_eq` and `positionAt_byteOffset` say the
same of looking up an offset and a position.
-/

namespace Numbering.Buffer.Bytes

open Text

/-- Why editing by bytes stops: for a slice that cannot be taken, or for a fault of the batch. -/
inductive Halt
  | badSlice
  | refused (fault : EditError)
  deriving DecidableEq, Repr

def slice (buffer : Text) (start stop : Nat) : Except Halt Text :=
  match slice? buffer start stop with
  | some text => .ok text
  | none => .error .badSlice

/-- The starts of the lines that begin inside a text, which itself begins at an offset. -/
def lineStartsFrom (offset : Nat) : Text → List Nat
  | [] => []
  | c :: rest =>
    if c = '\n' then (offset + 1) :: lineStartsFrom (offset + 1) rest
    else lineStartsFrom (offset + c.utf8Size) rest

/-- The starts of all lines of a buffer. -/
def lineStarts (buffer : Text) : List Nat :=
  0 :: lineStartsFrom 0 buffer

/-- The content of a line, whose line end is one byte long or, after a carriage return, two. -/
def contentSpan (buffer : Text) (line : Nat) : Except Halt (Option Span) :=
  match (lineStarts buffer)[line]?, (lineStarts buffer)[line + 1]? with
  | none, _ => .ok none
  | some start, none => .ok (some ⟨start, byteLength buffer⟩)
  | some start, some next => do
    let text ← slice buffer start (next - 1)
    return some ⟨start, if text.getLast? = some '\r' then next - 2 else next - 1⟩

/-- The offset of a position, or the fault that it lies outside the buffer. -/
def resolve (buffer : Text) (position : Position) : Except Halt Nat := do
  match ← contentSpan buffer position.line with
  | none => .error (.refused (.outOfBounds position))
  | some span =>
    let content ← slice buffer span.start span.stop
    if position.column = content.length then return span.stop
    else if position.column < content.length then
      return span.start + byteLength (content.take position.column)
    else .error (.refused (.outOfBounds position))

/-- The number of the last line that starts at an offset or in front of it. -/
def lineAt (buffer : Text) (offset : Nat) : Nat :=
  ((lineStarts buffer).takeWhile (· ≤ offset)).length - 1

/-- The position of an offset: its line, and the characters from the start of that line on. -/
def positionAt (buffer : Text) (offset : Nat) : Except Halt Position :=
  match (lineStarts buffer)[lineAt buffer offset]? with
  | none => .error .badSlice
  | some start => do
    let text ← slice buffer start offset
    return ⟨lineAt buffer offset, text.length⟩

def place (buffer : Text) (edit : Edit) : Except Halt Placed := do
  if edit.target.stop < edit.target.start then .error (.refused (.reversed edit.target))
  else
    let start ← resolve buffer edit.target.start
    let stop ← resolve buffer edit.target.stop
    return ⟨⟨start, stop⟩, edit⟩

/-- The buffer from an offset on, with the spans of the edits replaced. -/
def splice (buffer : Text) (copied : Nat) : List Placed → Except Halt Text
  | [] => slice buffer copied (byteLength buffer)
  | placed :: others => do
    let piece ← slice buffer copied placed.span.start
    let rest ← splice buffer placed.span.stop others
    return piece ++ placed.edit.text ++ rest

def apply (buffer : Text) (edits : List Edit) : Except Halt Text := do
  let placed ← edits.mapM (place buffer)
  let sorted := placed.mergeSort Placed.precedes
  match firstOverlap? sorted with
  | some (first, second) => .error (.refused (.overlap first second))
  | none => splice buffer 0 sorted

/-! ## Lines -/

theorem lineStartsFrom_append (offset : Nat) (front back : Text) :
    lineStartsFrom offset (front ++ back) =
      lineStartsFrom offset front ++ lineStartsFrom (offset + byteLength front) back := by
  induction front generalizing offset with
  | nil => simp [lineStartsFrom]
  | cons c rest ih =>
    have feed : ('\n' : Char).utf8Size = 1 := by decide
    rw [List.cons_append, lineStartsFrom, lineStartsFrom, byteLength_cons, ← Nat.add_assoc]
    split
    · rename_i same
      rw [ih, same, feed, List.cons_append]
    · rw [ih]

theorem length_lineStartsFrom (offset : Nat) (text : Text) :
    (lineStartsFrom offset text).length = text.count '\n' := by
  induction text generalizing offset with
  | nil => rfl
  | cons c rest ih =>
    rw [lineStartsFrom]
    split
    · rename_i same
      rw [List.length_cons, ih, same, List.count_cons_self]
    · rename_i other
      rw [ih, List.count_cons_of_ne other]

/-- The line that opens after some characters starts at their number of bytes. -/
theorem lineStarts_getElem? (front back : Text)
    (opens : front = [] ∨ front.getLast? = some '\n') :
    (lineStarts (front ++ back))[front.count '\n']? = some (byteLength front) := by
  rcases opens with rfl | last
  · rfl
  · obtain ⟨start, rfl⟩ := List.getLast?_eq_some_iff.mp last
    have feed : ('\n' : Char).utf8Size = 1 := by decide
    have number : (start ++ ['\n']).count '\n' = start.count '\n' + 1 := by
      rw [List.count_append, List.count_singleton_self]
    rw [number, lineStarts, List.getElem?_cons_succ, lineStartsFrom_append, lineStartsFrom_append,
      List.append_assoc,
      List.getElem?_append_right (Nat.le_of_eq (length_lineStartsFrom ..)), length_lineStartsFrom]
    simp [lineStartsFrom, feed]

theorem lineStarts_getElem?_eq_none {buffer : Text} {line : Nat}
    (behind : buffer.count '\n' < line) : (lineStarts buffer)[line]? = none := by
  rw [List.getElem?_eq_none_iff, lineStarts, List.length_cons, length_lineStartsFrom]
  omega

theorem slice_append (front middle back : Text) :
    slice (front ++ middle ++ back) (byteLength front) (byteLength (front ++ middle)) =
      .ok middle := by
  rw [slice, slice?_append]

/-- The content of a line is found behind the bytes in front of it. -/
theorem contentSpan_of_isLine {buffer before content : Text} {line : Nat}
    (isLine : IsLine buffer line before content) :
    contentSpan buffer line = .ok (some ⟨byteLength before, byteLength (before ++ content)⟩) := by
  obtain ⟨⟨rest, rfl, ends⟩, rfl, opens, inside⟩ := isLine
  have feed : ('\n' : Char).utf8Size = 1 := by decide
  have back : ('\r' : Char).utf8Size = 1 := by decide
  have noFeed : content.count '\n' = 0 := List.count_eq_zero.mpr inside
  have here : (lineStarts (before ++ content ++ rest))[before.count '\n']? =
      some (byteLength before) := by
    rw [List.append_assoc]
    exact lineStarts_getElem? _ _ opens
  cases ends with
  | endOfBuffer =>
    have last : (lineStarts (before ++ content ++ []))[before.count '\n' + 1]? = none :=
      lineStarts_getElem?_eq_none (by simp only [List.count_append, noFeed, List.count_nil]; omega)
    rw [contentSpan, here, last, List.append_nil]
  | lineFeed tail bare =>
    have next : (lineStarts (before ++ content ++ '\n' :: tail))[before.count '\n' + 1]? =
        some (byteLength (before ++ content) + 1) := by
      have found := lineStarts_getElem? (before ++ content ++ ['\n']) tail (.inr (by simp))
      simpa [noFeed, feed, Nat.add_assoc] using found
    have sliced := slice_append before content ('\n' :: tail)
    rw [contentSpan, here, next]
    dsimp only
    rw [Nat.add_sub_cancel, sliced]
    change Except.ok (some (Span.mk _ (if content.getLast? = some '\r' then _ else _))) = _
    rw [if_neg bare]
  | carriageReturn tail =>
    have next : (lineStarts (before ++ content ++ '\r' :: '\n' :: tail))[before.count '\n' + 1]? =
        some (byteLength (before ++ content) + 2) := by
      have found := lineStarts_getElem? (before ++ content ++ ['\r', '\n']) tail
        (.inr (by simp))
      simpa [noFeed, feed, back, Nat.add_assoc] using found
    have sliced : slice (before ++ content ++ '\r' :: '\n' :: tail) (byteLength before)
        (byteLength (before ++ content) + 1) = .ok (content ++ ['\r']) := by
      have found := slice_append before (content ++ ['\r']) ('\n' :: tail)
      simpa [back, Nat.add_assoc] using found
    rw [contentSpan, here, next]
    dsimp only
    rw [show byteLength (before ++ content) + 2 - 1 = byteLength (before ++ content) + 1 from rfl,
      sliced]
    change Except.ok (some (Span.mk _
      (if (content ++ ['\r']).getLast? = some '\r' then _ else _))) = _
    rw [if_pos (by simp), Nat.add_sub_cancel]

/-- Resolving a position by bytes gives the bytes in front of its offset. -/
theorem resolve_eq (buffer : Text) (position : Position) :
    resolve buffer position = match offset? buffer position with
      | some offset => .ok (byteOffset buffer offset)
      | none => .error (.refused (.outOfBounds position)) := by
  by_cases low : position.line ≤ buffer.count '\n'
  · obtain ⟨before, content, isLine⟩ := exists_isLine low
    obtain ⟨rest, split, -⟩ := isLine.split
    have sliced : slice buffer (byteLength before) (byteLength (before ++ content)) =
        .ok content := by
      rw [split]
      exact slice_append before content rest
    rw [resolve, contentSpan_of_isLine isLine, offset?_of_isLine isLine]
    change (slice buffer (byteLength before) (byteLength (before ++ content)) >>= _) = _
    rw [sliced]
    change (if position.column = content.length then _ else _) = _
    by_cases within : position.column ≤ content.length
    · have bytes : byteOffset buffer (before.length + position.column) =
          byteLength before + byteLength (content.take position.column) := by
        rw [byteOffset, split, List.append_assoc, List.take_append, byteLength_append,
          List.take_of_length_le (Nat.le_add_right ..), Nat.add_sub_cancel_left,
          List.take_append_of_le_length within]
      rw [if_pos within]
      dsimp only
      rw [bytes]
      split
      · rename_i whole
        rw [whole, List.take_length, byteLength_append]
        rfl
      · rw [if_pos (by omega)]
        rfl
    · rw [if_neg within, if_neg (by omega), if_neg (by omega)]
  · rw [offset?_of_count_lt (Nat.not_le.mp low), resolve, contentSpan,
      lineStarts_getElem?_eq_none (Nat.not_le.mp low)]
    rfl

theorem lineStarts_append (front back : Text) :
    lineStarts (front ++ back) = lineStarts front ++ lineStartsFrom (byteLength front) back := by
  rw [lineStarts, lineStartsFrom_append, Nat.zero_add]
  rfl

theorem bounds_of_mem_lineStartsFrom {offset start : Nat} {text : Text}
    (member : start ∈ lineStartsFrom offset text) :
    offset < start ∧ start ≤ offset + byteLength text := by
  induction text generalizing offset with
  | nil => simp [lineStartsFrom] at member
  | cons c rest ih =>
    have wide := c.utf8Size_pos
    rw [byteLength_cons]
    rw [lineStartsFrom] at member
    split at member
    · rcases List.mem_cons.mp member with rfl | later
      · omega
      · have bounds := ih later
        omega
    · have bounds := ih member
      omega

/-- The line of an offset is counted by the line feeds in front of it. -/
theorem lineAt_append (front back : Text) :
    lineAt (front ++ back) (byteLength front) = front.count '\n' := by
  have reached : ∀ start ∈ lineStarts front, decide (start ≤ byteLength front) = true := by
    intro start member
    rw [decide_eq_true_iff]
    rcases List.mem_cons.mp member with rfl | later
    · exact Nat.zero_le _
    · have bounds := bounds_of_mem_lineStartsFrom later
      omega
  have beyond : (lineStartsFrom (byteLength front) back).takeWhile (· ≤ byteLength front) = [] := by
    cases found : lineStartsFrom (byteLength front) back with
    | nil => rfl
    | cons start rest =>
      have bounds := bounds_of_mem_lineStartsFrom (found ▸ List.mem_cons_self : start ∈ _)
      exact List.takeWhile_cons_of_neg (by simpa using bounds.1)
  rw [lineAt, lineStarts_append, List.takeWhile_append_of_pos reached, beyond, List.append_nil,
    lineStarts, List.length_cons, length_lineStartsFrom, Nat.add_sub_cancel]

/-- Looking up the bytes in front of a place gives the position of that place. -/
theorem positionAt_byteOffset {buffer : Text} {place : Nat} (inside : place ≤ buffer.length) :
    positionAt buffer (byteOffset buffer place) = .ok (Buffer.positionAt buffer place) := by
  obtain ⟨front, back, rfl, rfl⟩ := exists_cut inside
  obtain ⟨before, tail, rfl, opens, clean, counted⟩ := exists_foldl_next front
  have line : lineAt (before ++ tail ++ back) (byteLength (before ++ tail)) = before.count '\n' := by
    rw [lineAt_append, List.count_append, List.count_eq_zero.mpr clean, Nat.add_zero]
  have start : (lineStarts (before ++ tail ++ back))[before.count '\n']? =
      some (byteLength before) := by
    rw [List.append_assoc]
    exact lineStarts_getElem? _ _ opens
  rw [byteOffset, Buffer.positionAt, List.take_left, counted, positionAt, line, start]
  change (slice _ _ _ >>= _) = _
  rw [slice_append before tail back]
  rfl

/-! ## Spans -/

/-- An edit with its span in bytes. -/
def inBytes (buffer : Text) (placed : Placed) : Placed :=
  ⟨⟨byteOffset buffer placed.span.start, byteOffset buffer placed.span.stop⟩, placed.edit⟩

/-- A span that ends inside a buffer. -/
def Inside (buffer : Text) (placed : Placed) : Prop :=
  placed.span.start ≤ buffer.length ∧ placed.span.stop ≤ buffer.length

theorem place_eq (buffer : Text) (edit : Edit) :
    place buffer edit =
      ((Buffer.place (lineSpans buffer) edit).map (inBytes buffer)).mapError .refused := by
  rw [place, Buffer.place, resolve_eq, resolve_eq, Buffer.resolve, Buffer.resolve, offset?, offset?]
  split
  · rfl
  · cases offsetIn? (lineSpans buffer) edit.target.start <;>
      cases offsetIn? (lineSpans buffer) edit.target.stop <;> rfl

variable {buffer : Text}

theorem precedes_inBytes {first second : Placed} (inside : Inside buffer first)
    (inside' : Inside buffer second) :
    (inBytes buffer first).precedes (inBytes buffer second) = first.precedes second := by
  rw [Bool.eq_iff_iff, precedes_iff, precedes_iff]
  simp only [inBytes, byteOffset_lt_iff inside.1 inside'.1, byteOffset_inj inside.1 inside'.1,
    byteOffset_le_iff inside.2 inside'.2]

theorem firstOverlap?_inBytes {placed : List Placed}
    (inside : ∀ edit ∈ placed, Inside buffer edit) :
    firstOverlap? (placed.map (inBytes buffer)) = firstOverlap? placed := by
  induction placed with
  | nil => rfl
  | cons first others ih =>
    cases others with
    | nil => rfl
    | cons second rest =>
      have crossing : (inBytes buffer second).span.start < (inBytes buffer first).span.stop ↔
          second.span.start < first.span.stop :=
        byteOffset_lt_iff (inside second (by simp)).1 (inside first (by simp)).2
      have later := ih fun edit member => inside edit (List.mem_cons_of_mem _ member)
      rw [List.map_cons] at later
      rw [List.map_cons, List.map_cons, firstOverlap?, firstOverlap?, later]
      simp only [crossing]
      rfl

/-- Every slice of the splice is taken between two places in order. -/
theorem splice_eq {offset : Nat} {ordered : List Placed}
    (staged : Staged buffer offset (ordered.map Placed.span)) :
    splice buffer (byteOffset buffer offset) (ordered.map (inBytes buffer)) =
      .ok (Buffer.splice offset (buffer.drop offset) ordered) := by
  induction ordered generalizing offset with
  | nil =>
    cases staged with
    | nil inside =>
      have last := slice?_byteOffset buffer inside
      rw [byteOffset_length] at last
      rw [List.map_nil, splice, slice, last, Buffer.splice, List.extract_eq_take_drop,
        List.take_of_length_le (Nat.le_of_eq List.length_drop)]
  | cons placed others ih =>
    cases staged with
    | cons ahead proper inside later =>
      have piece := slice?_byteOffset buffer ahead
      have rest : (buffer.drop offset).drop (placed.span.stop - offset) =
          buffer.drop placed.span.stop := by
        rw [List.drop_drop]
        congr 1
        omega
      rw [List.map_cons, splice, slice]
      change ((match slice? buffer (byteOffset buffer offset)
          (byteOffset buffer placed.span.start) with
        | some text => Except.ok text
        | none => .error Halt.badSlice) >>= _) = _
      rw [piece]
      change (splice buffer (byteOffset buffer placed.span.stop)
        (others.map (inBytes buffer)) >>= _) = _
      rw [ih later, Buffer.splice, rest, List.extract_eq_take_drop]
      rfl

/-- Editing by bytes never takes a bad slice and gives what editing by characters gives. -/
theorem apply_eq (buffer : Text) (edits : List Edit) :
    apply buffer edits = (Buffer.apply buffer edits).mapError .refused := by
  rw [apply, funext (place_eq buffer), mapM_map_mapError]
  cases found : edits.mapM (Buffer.place (lineSpans buffer)) with
  | error fault =>
    rw [apply_of_misplaced found]
    rfl
  | ok listed =>
    obtain ⟨-, fits⟩ := mapM_place_eq_ok_iff.mp found
    have within : ∀ placed ∈ listed, Inside buffer placed := fun placed member =>
      ⟨(fits placed member).2.1.le_length, (fits placed member).2.2.le_length⟩
    have sorts : (listed.map (inBytes buffer)).mergeSort Placed.precedes =
        (listed.mergeSort Placed.precedes).map (inBytes buffer) :=
      (List.map_mergeSort fun first member second member' =>
        (precedes_inBytes (within first member) (within second member')).symm).symm
    have overlaps := firstOverlap?_inBytes fun placed member =>
      within placed ((arranged_mergeSort listed).perm.mem_iff.mp member)
    change (match firstOverlap? ((listed.map (inBytes buffer)).mergeSort Placed.precedes) with
      | some (first, second) => Except.error (Halt.refused (.overlap first second))
      | none => splice buffer 0 ((listed.map (inBytes buffer)).mergeSort Placed.precedes)) = _
    rw [sorts, overlaps, apply_of_placed found]
    cases clear : firstOverlap? (listed.mergeSort Placed.precedes) with
    | some pair => rfl
    | none => exact splice_eq (staged_of_placed found clear).2

end Numbering.Buffer.Bytes
