import Numbering.Proofs.Buffer.FirstLine

/-! # Editing line by line

A batch in which every edit stays on its line and writes no line feed is one batch for each line.
Cutting off the first line again and again, the buffer keeps the number of its lines, and what comes
of a line is its content with the edits of this line applied, followed by the line end that it had
(`editedByLine_of_apply`). A line without edits is therefore left as it is, and one that ends in a
carriage return and a line feed goes on ending in them (`lines_framed_of_apply`).
-/

namespace Numbering

/-- The edit of the same columns on the first line. -/
def Edit.atTop (edit : Edit) : Edit where
  target := ⟨⟨0, edit.target.start.column⟩, ⟨0, edit.target.stop.column⟩⟩
  text := edit.text

theorem Edit.atTop_eq {edit : Edit} (level : edit.Level) (top : edit.target.start.line = 0) :
    edit.atTop = edit := by
  obtain ⟨⟨⟨line, column⟩, ⟨line', column'⟩⟩, text⟩ := edit
  obtain rfl : line = 0 := top
  obtain rfl : 0 = line' := level
  rfl

namespace Buffer

variable {buffer result : Text} {edits lower : List Edit}

/-- The edits of a line, as edits of a buffer that has this line only. -/
def editsOn (line : Nat) (edits : List Edit) : List Edit :=
  (edits.filter (·.target.start.line = line)).map Edit.atTop

/-- The content of a line, given its characters: a line feed follows all lines but the last. -/
def contentOf (buffer : Text) (line : Nat) (characters : Text) : Text :=
  if line + 1 < (lines buffer).length then stripReturn characters else characters

theorem contentOf_append_drop (buffer : Text) (line : Nat) (characters : Text) :
    contentOf buffer line characters ++
      characters.drop (contentOf buffer line characters).length = characters := by
  unfold contentOf
  split
  · rw [length_stripReturn]
    exact List.take_append_drop _ _
  · rw [List.drop_length, List.append_nil]

theorem editsOn_zero (level : ∀ edit ∈ edits, edit.Level) :
    editsOn 0 edits = edits.filter (·.target.start.line = 0) := by
  refine (List.map_congr_left fun edit member => ?_).trans (List.map_id _)
  obtain ⟨inside, top⟩ := List.mem_filter.mp member
  exact Edit.atTop_eq (level edit inside) (of_decide_eq_true top)

/-- The edits of a line behind the first are those of the line before it in the rest. -/
theorem editsOn_succ (lowered : lower.map Edit.below = edits.filter (¬ ·.target.start.line = 0))
    (line : Nat) : editsOn (line + 1) edits = editsOn line lower := by
  have behind : edits.filter (·.target.start.line = line + 1) =
      (edits.filter (¬ ·.target.start.line = 0)).filter (·.target.start.line = line + 1) := by
    rw [List.filter_filter]
    apply List.filter_congr
    intro edit _
    rw [← Bool.decide_and, decide_eq_decide]
    omega
  have moved : (lower.map Edit.below).filter (·.target.start.line = line + 1) =
      (lower.filter (·.target.start.line = line)).map Edit.below := by
    rw [List.filter_map]
    congr 1
    apply List.filter_congr
    intro edit _
    exact decide_eq_decide.mpr Nat.add_right_cancel_iff
  rw [editsOn, behind, ← lowered, moved, List.map_map]
  rfl

theorem editsOn_eq_nil {line : Nat} (none : ∀ edit ∈ edits, edit.target.start.line ≠ line) :
    editsOn line edits = [] := by
  rw [editsOn, List.map_eq_nil_iff, List.filter_eq_nil_iff]
  exact fun edit member same => none edit member (of_decide_eq_true same)

/-- A batch writes no characters but those of its texts. -/
theorem mem_of_apply (applied : apply buffer edits = .ok result) {c : Char} (member : c ∈ result) :
    c ∈ buffer ∨ ∃ edit ∈ edits, c ∈ edit.text := by
  obtain ⟨ordered, ⟨listed, rfl, -, arranged⟩, -, rfl⟩ := apply_eq_ok_iff_staged.mp applied
  rcases mem_replaceAll member with old | ⟨placed, inside, written⟩
  · exact .inl old
  · exact .inr ⟨_, List.mem_map_of_mem (arranged.perm.mem_iff.mp inside), written⟩

/-- In a buffer without line feeds all edits are on the first line. -/
theorem line_eq_zero_of_apply (none : '\n' ∉ buffer) (applied : apply buffer edits = .ok result) :
    ∀ edit ∈ edits, edit.target.start.line = 0 := by
  intro edit member
  have acceptable := exists_apply_eq_ok_iff.mp ⟨result, applied⟩
  obtain ⟨⟨offset, before, content, isLine, -⟩, -⟩ := acceptable.inside edit member
  exact ((isLine_of_not_mem none).mp isLine).1

/-- What comes of the lines of a buffer: there are as many, and each consists of its own content with
its own edits applied, and of its own line end. -/
structure EditedByLine (buffer : Text) (edits : List Edit) (result : Text) : Prop where
  number : (lines result).length = (lines buffer).length
  each : ∀ line characters, (lines buffer)[line]? = some characters →
    ∃ edited, apply (contentOf buffer line characters) (editsOn line edits) = .ok edited ∧
      (lines result)[line]? =
        some (edited ++ characters.drop (contentOf buffer line characters).length)

/-- A buffer of one line is edited as this line. -/
theorem EditedByLine.of_not_mem (none : '\n' ∉ buffer) (applied : apply buffer edits = .ok result)
    (level : ∀ edit ∈ edits, edit.Level) (unbroken : ∀ edit ∈ edits, '\n' ∉ edit.text) :
    EditedByLine buffer edits result := by
  have clean : '\n' ∉ result := by
    intro feed
    rcases mem_of_apply applied feed with old | ⟨edit, member, written⟩
    · exact none old
    · exact unbroken edit member written
  have all : editsOn 0 edits = edits := by
    rw [editsOn_zero level]
    apply List.filter_eq_self.mpr
    intro edit member
    exact decide_eq_true (line_eq_zero_of_apply none applied edit member)
  have whole : contentOf buffer 0 buffer = buffer := by
    rw [contentOf, lines_of_not_mem none, if_neg (by simp)]
  constructor
  · rw [lines_of_not_mem clean, lines_of_not_mem none]
    rfl
  · intro line characters found
    rw [lines_of_not_mem none] at found
    cases line with
    | zero =>
      obtain rfl : buffer = characters := Option.some.inj found
      refine ⟨result, by rw [whole, all, applied], ?_⟩
      rw [lines_of_not_mem clean, whole, List.drop_length, List.append_nil]
      rfl
    | succ line => simp at found

/-- A first line goes in front of lines that are edited on their own. -/
theorem EditedByLine.cons {first rest edited later : Text} (none : '\n' ∉ first)
    (level : ∀ edit ∈ edits, edit.Level)
    (lowered : lower.map Edit.below = edits.filter (¬ ·.target.start.line = 0))
    (top : apply (stripReturn first) (edits.filter (·.target.start.line = 0)) = .ok edited)
    (clean : '\n' ∉ edited ++ first.drop (contentLength first))
    (below : EditedByLine rest lower later) :
    EditedByLine (first ++ '\n' :: rest) edits
      (edited ++ (first.drop (contentLength first) ++ '\n' :: later)) := by
  have cut : lines (first ++ '\n' :: rest) = first :: lines rest :=
    lines_append_lineFeed none rest
  constructor
  · rw [← List.append_assoc, lines_append_lineFeed clean, cut, List.length_cons, List.length_cons,
      below.number]
  · intro line characters found
    rw [← List.append_assoc, lines_append_lineFeed clean]
    rw [cut] at found
    cases line with
    | zero =>
      obtain rfl : first = characters := Option.some.inj found
      have followed : 0 < (lines rest).length := List.length_pos_iff.mpr (lines_ne_nil rest)
      have content : contentOf (first ++ '\n' :: rest) 0 first = stripReturn first := by
        rw [contentOf, cut, if_pos (by simpa using followed)]
      refine ⟨edited, by rw [content, editsOn_zero level, top], ?_⟩
      rw [content, length_stripReturn]
      rfl
    | succ line =>
      have content : contentOf (first ++ '\n' :: rest) (line + 1) characters =
          contentOf rest line characters := by
        simp only [contentOf, cut, List.length_cons, Nat.add_lt_add_iff_right]
      rw [content, editsOn_succ lowered]
      exact below.each line characters found

/-- A batch that stays on its lines and writes no line feed edits a buffer line by line. -/
theorem editedByLine_of_apply (applied : apply buffer edits = .ok result)
    (level : ∀ edit ∈ edits, edit.Level) (unbroken : ∀ edit ∈ edits, '\n' ∉ edit.text) :
    EditedByLine buffer edits result := by
  -- by the number of line feeds, each time cutting off the first line
  induction feeds : buffer.count '\n' generalizing buffer edits result with
  | zero => exact .of_not_mem (List.count_eq_zero.mp feeds) applied level unbroken
  | succ count ih =>
    have member : '\n' ∈ buffer := List.count_pos_iff.mp (by omega)
    obtain ⟨first, rest, rfl, none⟩ := List.eq_append_cons_of_mem member
    obtain ⟨edited, later, lower, lowered, top, below, rfl⟩ := apply_cut none applied level
    have source : ∀ edit ∈ lower, edit.below ∈ edits := fun edit member =>
      List.mem_of_mem_filter (lowered ▸ List.mem_map_of_mem member)
    have clean : '\n' ∉ edited ++ first.drop (contentLength first) := by
      intro feed
      rcases List.mem_append.mp feed with feed | feed
      · rcases mem_of_apply top feed with old | ⟨edit, inside, written⟩
        · exact none (List.mem_of_mem_take old)
        · exact unbroken edit (List.mem_of_mem_filter inside) written
      · exact none (List.mem_of_mem_drop feed)
    apply EditedByLine.cons none level lowered top clean
    apply ih below
    · exact fun edit member => Nat.succ.inj (level edit.below (source edit member))
    · exact fun edit member => unbroken edit.below (source edit member)
    · simpa [List.count_eq_zero.mpr none] using feeds

/-- The edited lines of a batch that stays on its lines and writes no line feed. A line without edits
is as it was, and a line in front of a carriage return and a line feed is left in front of both, with
its own edits applied to it. -/
theorem lines_framed_of_apply (applied : apply buffer edits = .ok result)
    (level : ∀ edit ∈ edits, edit.target.start.line = edit.target.stop.line)
    (unbroken : ∀ edit ∈ edits, '\n' ∉ edit.text) :
    (lines result).length = (lines buffer).length ∧
      (∀ line, (∀ edit ∈ edits, edit.target.start.line ≠ line) →
        (lines result)[line]? = (lines buffer)[line]?) ∧
      ∀ line content, line + 1 < (lines buffer).length →
        (lines buffer)[line]? = some (content ++ ['\r']) →
        ∃ edited, apply content (editsOn line edits) = .ok edited ∧
          (lines result)[line]? = some (edited ++ ['\r']) := by
  obtain ⟨number, each⟩ := editedByLine_of_apply applied level unbroken
  refine ⟨number, fun line free => ?_, fun line content followed found => ?_⟩
  · cases found : (lines buffer)[line]? with
    | none =>
      apply List.getElem?_eq_none
      rw [number]
      exact List.getElem?_eq_none_iff.mp found
    | some characters =>
      obtain ⟨edited, own, same⟩ := each line characters found
      rw [editsOn_eq_nil free, apply_nil] at own
      rw [same, ← Except.ok.inj own]
      exact congrArg some (contentOf_append_drop buffer line characters)
  · obtain ⟨edited, own, same⟩ := each line _ found
    have inside : contentOf buffer line (content ++ ['\r']) = content := by
      rw [contentOf, if_pos followed, stripReturn_append_return]
    rw [inside] at own same
    exact ⟨edited, own, by rw [same, List.drop_left]⟩

/-- Two edits of the first of three lines; the second line is left alone, with its line feed. -/
theorem lines_framed_of_apply_first :
    let front : Edit := ⟨.cursor ⟨0, 0⟩, ['1']⟩
    let back : Edit := ⟨⟨⟨0, 1⟩, ⟨0, 2⟩⟩, ['x', 'y']⟩
    let buffer := ['a', 'b', '\r', '\n', 'c', '\n', 'd']
    let result := ['1', 'a', 'x', 'y', '\r', '\n', 'c', '\n', 'd']
    apply buffer [front, back] = .ok result ∧
      (lines result).length = 3 ∧ (lines result)[1]? = some ['c'] ∧
      ∃ edited, apply ['a', 'b'] (editsOn 0 [front, back]) = .ok edited ∧
        (lines result)[0]? = some (edited ++ ['\r']) := by
  intro front back buffer result
  have found : [front, back].mapM (place (lineSpans buffer)) =
      .ok [⟨⟨0, 0⟩, front⟩, ⟨⟨1, 2⟩, back⟩] := by decide
  have applied : apply buffer [front, back] = .ok result :=
    apply_of_sorted found (by decide) (by decide)
  have level : ∀ edit ∈ [front, back], edit.target.start.line = edit.target.stop.line := by decide
  have unbroken : ∀ edit ∈ [front, back], '\n' ∉ edit.text := by decide
  have framed := lines_framed_of_apply applied level unbroken
  exact ⟨applied, framed.1, framed.2.1 1 (by decide), framed.2.2 0 ['a', 'b'] (by decide) rfl⟩

end Buffer

end Numbering
