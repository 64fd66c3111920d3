import Mathlib.Data.List.Basic
import Numbering.Buffer.Lines

/-! # Where the lines of a buffer stand

A line of a buffer is described here without scanning for it: what stands before it ends in a line
feed, its content holds none, and what follows it is a line end or nothing. A position that lies in
a buffer is one whose column lies in such a line. `offset?_eq_some_iff` says that the positions that
have an offset are exactly those, and that the offset counts all characters before the position.
-/

namespace Numbering.Buffer

/-- What follows the content of a line. A carriage return in front of a line feed belongs to the
line end, so a content that a bare line feed follows does not end in one. -/
inductive EndsLine (content : Text) : Text → Prop
  | endOfBuffer : EndsLine content []
  | lineFeed (rest : Text) (bare : content.getLast? ≠ some '\r') : EndsLine content ('\n' :: rest)
  | carriageReturn (rest : Text) : EndsLine content ('\r' :: '\n' :: rest)

/-- The content of a line and what stands before it, lines being counted by their line feeds. -/
structure IsLine (buffer : Text) (line : Nat) (before content : Text) : Prop where
  split : ∃ rest, buffer = before ++ content ++ rest ∧ EndsLine content rest
  number : before.count '\n' = line
  opens : before = [] ∨ before.getLast? = some '\n'
  inside : '\n' ∉ content

/-- A position lies in a buffer at an offset if its column lies within the content of its line. -/
def LiesAt (buffer : Text) (position : Position) (offset : Nat) : Prop :=
  ∃ before content, IsLine buffer position.line before content ∧
    position.column ≤ content.length ∧ offset = before.length + position.column

/-- A position lies in a buffer if its line exists and its column lies in the line's content. -/
def Contains (buffer : Text) (position : Position) : Prop :=
  ∃ offset, LiesAt buffer position offset

/-! ## Cutting off the first line -/

theorem lines_eq_splitOn (text : Text) : lines text = text.splitOn '\n' := by
  induction text with
  | nil => rfl
  | cons c rest ih =>
    rw [lines, List.splitOn_cons_eq_if_modifyHead, ← ih]
    simp only [beq_iff_eq]
    cases found : lines rest with
    | nil => exact absurd found (lines_ne_nil rest)
    | cons first others => rfl

theorem lines_of_not_mem {text : Text} (none : '\n' ∉ text) : lines text = [text] := by
  rw [lines_eq_splitOn, List.splitOn_eq_singleton none]

theorem lines_append_lineFeed {first : Text} (none : '\n' ∉ first) (rest : Text) :
    lines (first ++ '\n' :: rest) = first :: lines rest := by
  rw [lines_eq_splitOn, lines_eq_splitOn, List.splitOn_append_cons_self_of_not_mem none]

def Span.shift (distance : Nat) (span : Span) : Span :=
  ⟨distance + span.start, distance + span.stop⟩

theorem spansFrom_add (distance offset : Nat) (texts : List Text) :
    spansFrom (distance + offset) texts = (spansFrom offset texts).map (Span.shift distance) := by
  induction texts generalizing offset with
  | nil => rfl
  | cons line rest ih =>
    cases rest with
    | nil => simp [spansFrom, Span.shift, Nat.add_assoc]
    | cons next others =>
      have moved := ih (offset + line.length + 1)
      simp only [spansFrom, List.map_cons, Span.shift, Nat.add_assoc] at moved ⊢
      rw [moved]

theorem lineSpans_of_not_mem {text : Text} (none : '\n' ∉ text) :
    lineSpans text = [⟨0, text.length⟩] := by
  simp [lineSpans, lines_of_not_mem none, spansFrom]

theorem lineSpans_append_lineFeed {first : Text} (none : '\n' ∉ first) (rest : Text) :
    lineSpans (first ++ '\n' :: rest) =
      ⟨0, contentLength first⟩ :: (lineSpans rest).map (Span.shift (first.length + 1)) := by
  rw [lineSpans, lines_append_lineFeed none, lineSpans, ← spansFrom_add]
  cases found : lines rest with
  | nil => exact absurd found (lines_ne_nil rest)
  | cons next others => simp [spansFrom]

private theorem lineFeed_cut {first other rest tail : Text} (none : '\n' ∉ first)
    (clean : '\n' ∉ other) (same : first ++ '\n' :: rest = other ++ '\n' :: tail) :
    first = other ∧ rest = tail := by
  have fronts := congrArg (List.takeWhile (· ≠ '\n')) same
  have free {text : Text} (absent : '\n' ∉ text) (after : Text) :
      (text ++ '\n' :: after).takeWhile (· ≠ '\n') = text := by
    have inside : ∀ c ∈ text, decide (c ≠ '\n') = true := by
      intro c member
      exact decide_eq_true (ne_of_mem_of_not_mem member absent)
    rw [List.takeWhile_append_of_pos inside]
    simp
  rw [free none, free clean] at fronts
  subst fronts
  simpa using same

/-! ## Lines as the buffer shows them -/

theorem isLine_of_not_mem {buffer : Text} (none : '\n' ∉ buffer) {line : Nat}
    {before content : Text} :
    IsLine buffer line before content ↔ line = 0 ∧ before = [] ∧ content = buffer := by
  constructor
  · rintro ⟨⟨rest, split, ends⟩, number, opens, inside⟩
    subst split
    simp only [List.mem_append, not_or] at none
    obtain ⟨⟨noBefore, -⟩, noRest⟩ := none
    have empty : before = [] :=
      opens.resolve_right fun last => noBefore (List.mem_of_getLast? last)
    subst empty
    cases ends with
    | endOfBuffer => exact ⟨number.symm, rfl, by simp⟩
    | lineFeed => simp at noRest
    | carriageReturn => simp at noRest
  · rintro ⟨rfl, rfl, rfl⟩
    exact ⟨⟨[], by simp, .endOfBuffer⟩, rfl, .inl rfl, none⟩

/-- The content of a line that a line feed follows. -/
def stripReturn (line : Text) : Text :=
  line.take (contentLength line)

theorem length_stripReturn (line : Text) : (stripReturn line).length = contentLength line := by
  rw [stripReturn, List.length_take, contentLength]
  split <;> omega

theorem stripReturn_append_return (content : Text) : stripReturn (content ++ ['\r']) = content := by
  simp [stripReturn, contentLength]

theorem stripReturn_of_getLast? {content : Text} (bare : content.getLast? ≠ some '\r') :
    stripReturn content = content := by
  simp [stripReturn, contentLength, bare]

theorem isLine_zero {first : Text} (none : '\n' ∉ first) (rest : Text) {before content : Text} :
    IsLine (first ++ '\n' :: rest) 0 before content ↔
      before = [] ∧ content = stripReturn first := by
  constructor
  · rintro ⟨⟨after, split, ends⟩, number, opens, inside⟩
    have empty : before = [] := opens.resolve_right fun last =>
      List.count_eq_zero.mp number (List.mem_of_getLast? last)
    subst empty
    refine ⟨rfl, ?_⟩
    rw [List.nil_append] at split
    cases ends with
    | endOfBuffer =>
      rw [List.append_nil] at split
      exact absurd (split ▸ by simp) inside
    | lineFeed tail bare =>
      rw [(lineFeed_cut none inside split).1, stripReturn_of_getLast? bare]
    | carriageReturn tail =>
      have moved : first ++ '\n' :: rest = (content ++ ['\r']) ++ '\n' :: tail := by
        simpa using split
      rw [(lineFeed_cut none (by simp [inside]) moved).1, stripReturn_append_return]
  · rintro ⟨rfl, rfl⟩
    by_cases last : first.getLast? = some '\r'
    · obtain ⟨content, rfl⟩ := List.getLast?_eq_some_iff.mp last
      rw [stripReturn_append_return]
      exact ⟨⟨'\r' :: '\n' :: rest, by simp, .carriageReturn rest⟩, rfl, .inl rfl,
        fun member => none (by simp [member])⟩
    · rw [stripReturn_of_getLast? last]
      exact ⟨⟨'\n' :: rest, by simp, .lineFeed rest last⟩, rfl, .inl rfl, none⟩

theorem isLine_succ {first : Text} (none : '\n' ∉ first) (rest : Text) {line : Nat}
    {before content : Text} :
    IsLine (first ++ '\n' :: rest) (line + 1) before content ↔
      ∃ skipped, before = first ++ '\n' :: skipped ∧ IsLine rest line skipped content := by
  constructor
  · rintro ⟨⟨after, split, ends⟩, number, opens, inside⟩
    have member : '\n' ∈ before := List.count_pos_iff.mp (by omega)
    obtain ⟨start, skipped, rfl, clean⟩ := List.eq_append_cons_of_mem member
    have aligned : first ++ '\n' :: rest = start ++ '\n' :: (skipped ++ content ++ after) := by
      simpa using split
    obtain ⟨rfl, rfl⟩ := lineFeed_cut none clean aligned
    refine ⟨skipped, rfl, ⟨⟨after, rfl, ends⟩, ?_, ?_, inside⟩⟩
    · simp only [List.count_append, List.count_cons_self, List.count_eq_zero.mpr clean] at number
      omega
    · cases skipped with
      | nil => exact .inl rfl
      | cons c tail =>
        rcases opens with empty | last
        · simp at empty
        · exact .inr (by simpa [List.getLast?_append, List.getLast?_cons] using last)
  · rintro ⟨skipped, rfl, ⟨⟨after, rfl, ends⟩, number, opens, inside⟩⟩
    refine ⟨⟨after, by simp, ends⟩, ?_, .inr ?_, inside⟩
    · rw [List.count_append, List.count_cons_self, List.count_eq_zero.mpr none, number]
      omega
    · rcases opens with rfl | last
      · simp
      · simp [List.getLast?_append, List.getLast?_cons, last]

/-- The spans of a buffer are the contents of its lines. -/
theorem lineSpans_getElem?_eq_some_iff {buffer : Text} {line : Nat} {span : Span} :
    (lineSpans buffer)[line]? = some span ↔ ∃ before content,
      IsLine buffer line before content ∧
        span = ⟨before.length, before.length + content.length⟩ := by
  induction line generalizing buffer span with
  | zero =>
    by_cases feed : '\n' ∈ buffer
    · obtain ⟨first, rest, rfl, none⟩ := List.eq_append_cons_of_mem feed
      simp [lineSpans_append_lineFeed none, isLine_zero none, length_stripReturn, eq_comm]
    · simp [lineSpans_of_not_mem feed, isLine_of_not_mem feed, eq_comm]
  | succ line ih =>
    by_cases feed : '\n' ∈ buffer
    · obtain ⟨first, rest, rfl, none⟩ := List.eq_append_cons_of_mem feed
      rw [lineSpans_append_lineFeed none, List.getElem?_cons_succ, List.getElem?_map,
        Option.map_eq_some_iff]
      constructor
      · rintro ⟨inner, found, rfl⟩
        obtain ⟨skipped, content, isLine, rfl⟩ := ih.mp found
        refine ⟨first ++ '\n' :: skipped, content,
          (isLine_succ none rest).mpr ⟨skipped, rfl, isLine⟩, ?_⟩
        simp only [Span.shift, List.length_append, List.length_cons, Span.mk.injEq]
        omega
      · rintro ⟨before, content, isLine, rfl⟩
        obtain ⟨skipped, rfl, inner⟩ := (isLine_succ none rest).mp isLine
        refine ⟨_, ih.mpr ⟨skipped, content, inner, rfl⟩, ?_⟩
        simp only [Span.shift, List.length_append, List.length_cons, Span.mk.injEq]
        omega
    · simp [lineSpans_of_not_mem feed, isLine_of_not_mem feed]

/-- A buffer has one line more than it has line feeds. -/
theorem length_lineSpans (buffer : Text) : (lineSpans buffer).length = buffer.count '\n' + 1 := by
  have counted : (lines buffer).length = buffer.count '\n' + 1 := by
    induction buffer with
    | nil => rfl
    | cons c rest ih =>
      rw [lines]
      split
      · rename_i feed
        rw [List.length_cons, ih, feed, List.count_cons_self]
      · rename_i other
        rw [List.count_cons_of_ne other, ← ih]
        split
        · rename_i empty
          exact absurd empty (lines_ne_nil rest)
        · rename_i full
          rw [full, List.length_cons, List.length_cons]
  have laid (offset : Nat) (texts : List Text) :
      (spansFrom offset texts).length = texts.length := by
    fun_induction spansFrom offset texts with
    | case1 => rfl
    | case2 => rfl
    | case3 offset line rest more ih => rw [List.length_cons, List.length_cons, ih]
  rw [lineSpans, laid, counted]

/-- Every line up to the number of line feeds exists. -/
theorem exists_isLine {buffer : Text} {line : Nat} (low : line ≤ buffer.count '\n') :
    ∃ before content, IsLine buffer line before content := by
  have bound : line < (lineSpans buffer).length := by
    rw [length_lineSpans]
    omega
  obtain ⟨before, content, isLine, -⟩ :=
    lineSpans_getElem?_eq_some_iff.mp (List.getElem?_eq_getElem bound)
  exact ⟨before, content, isLine⟩

/-- In a line that exists the columns up to the length of its content have an offset. -/
theorem offset?_of_isLine {buffer before content : Text} {position : Position}
    (isLine : IsLine buffer position.line before content) :
    offset? buffer position =
      if position.column ≤ content.length then some (before.length + position.column)
      else none := by
  have found := lineSpans_getElem?_eq_some_iff.mpr ⟨before, content, isLine, rfl⟩
  simp only [offset?, offsetIn?, found, Option.bind_eq_bind, Option.bind_some,
    Nat.add_le_add_iff_left]

/-- No position has an offset in a line that does not exist. -/
theorem offset?_of_count_lt {buffer : Text} {position : Position}
    (high : buffer.count '\n' < position.line) : offset? buffer position = none := by
  have missing : (lineSpans buffer)[position.line]? = none := by
    rw [List.getElem?_eq_none_iff, length_lineSpans]
    omega
  simp [offset?, offsetIn?, missing]

/-- A position has an offset exactly if it lies in the buffer, and then the offset is its own. -/
theorem offset?_eq_some_iff {buffer : Text} {position : Position} {offset : Nat} :
    offset? buffer position = some offset ↔ LiesAt buffer position offset := by
  constructor
  · intro found
    by_cases low : position.line ≤ buffer.count '\n'
    · obtain ⟨before, content, isLine⟩ := exists_isLine low
      rw [offset?_of_isLine isLine] at found
      split at found
      · rename_i within
        exact ⟨before, content, isLine, within, (Option.some.inj found).symm⟩
      · cases found
    · rw [offset?_of_count_lt (Nat.not_le.mp low)] at found
      cases found
  · rintro ⟨before, content, isLine, within, rfl⟩
    rw [offset?_of_isLine isLine, if_pos within]

/-! ## Reading order is the order of offsets -/

/-- A line ends before a later one begins. -/
theorem IsLine.length_lt {buffer before content before' content' : Text} {line line' : Nat}
    (first : IsLine buffer line before content) (second : IsLine buffer line' before' content')
    (lower : line < line') : before.length + content.length < before'.length := by
  obtain ⟨⟨rest, split, -⟩, number, -, inside⟩ := first
  obtain ⟨⟨rest', split', -⟩, number', -, -⟩ := second
  have front : before ++ content <+: buffer := ⟨rest, split.symm⟩
  have front' : before' <+: buffer := ⟨content' ++ rest', by rw [split', List.append_assoc]⟩
  have feeds : (before ++ content).count '\n' = line := by
    rw [List.count_append, number, List.count_eq_zero.mpr inside, Nat.add_zero]
  by_contra short
  have within : before' <+: before ++ content :=
    List.prefix_of_prefix_length_le front' front (by simp only [List.length_append]; omega)
  have count := within.sublist.count_le '\n'
  omega

/-- The same line stands at the same place. -/
theorem IsLine.length_eq {buffer before content before' content' : Text} {line : Nat}
    (first : IsLine buffer line before content) (second : IsLine buffer line before' content') :
    before.length = before'.length := by
  have found := lineSpans_getElem?_eq_some_iff.mpr ⟨before, content, first, rfl⟩
  have found' := lineSpans_getElem?_eq_some_iff.mpr ⟨before', content', second, rfl⟩
  exact (Span.mk.inj (Option.some.inj (found.symm.trans found'))).1

variable {buffer : Text} {position other : Position} {offset place : Nat}

theorem LiesAt.lt (first : LiesAt buffer position offset) (second : LiesAt buffer other place)
    (earlier : position < other) : offset < place := by
  obtain ⟨before, content, isLine, within, rfl⟩ := first
  obtain ⟨before', content', isLine', -, rfl⟩ := second
  rcases Position.lt_iff.mp earlier with above | ⟨level, left⟩
  · have apart := isLine.length_lt isLine' above
    omega
  · rw [level] at isLine
    have same := isLine.length_eq isLine'
    omega

theorem LiesAt.unique (first : LiesAt buffer position offset)
    (second : LiesAt buffer position place) : offset = place :=
  Option.some.inj ((offset?_eq_some_iff.mpr first).symm.trans (offset?_eq_some_iff.mpr second))

private theorem position_trichotomy (position other : Position) :
    position < other ∨ position = other ∨ other < position := by
  obtain ⟨line, column⟩ := position
  obtain ⟨line', column'⟩ := other
  simp only [Position.lt_iff, Position.mk.injEq]
  omega

/-- One position only lies at an offset. -/
theorem LiesAt.position_eq (first : LiesAt buffer position offset)
    (second : LiesAt buffer other offset) : position = other := by
  rcases position_trichotomy position other with earlier | same | later
  · exact absurd (first.lt second earlier) (Nat.lt_irrefl _)
  · exact same
  · exact absurd (second.lt first later) (Nat.lt_irrefl _)

theorem LiesAt.lt_iff (first : LiesAt buffer position offset) (second : LiesAt buffer other place) :
    offset < place ↔ position < other := by
  refine ⟨fun lt => ?_, first.lt second⟩
  rcases position_trichotomy position other with earlier | rfl | later
  · exact earlier
  · exact absurd (first.unique second) (Nat.ne_of_lt lt)
  · exact absurd (second.lt first later) (Nat.lt_asymm lt)

/-- Positions of a buffer are in reading order exactly if their offsets are in order. -/
theorem LiesAt.le_iff (first : LiesAt buffer position offset) (second : LiesAt buffer other place) :
    offset ≤ place ↔ position ≤ other := by
  rw [← Position.not_lt, ← Nat.not_lt, second.lt_iff first]

theorem LiesAt.le_length (lies : LiesAt buffer position offset) : offset ≤ buffer.length := by
  obtain ⟨before, content, ⟨⟨rest, rfl, -⟩, -, -, -⟩, within, rfl⟩ := lies
  simp only [List.length_append]
  omega

end Numbering.Buffer
