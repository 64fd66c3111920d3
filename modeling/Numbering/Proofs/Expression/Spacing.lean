import Numbering.Proofs.Expression.Read
import Numbering.Proofs.Text.Spaced

/-! # White space between parts

The parts of an expression that are present stand in its text with white space around them and
between any two of them. All of these gaps but one are free: more white space in one of them leaves
the start where it ended and every part as it was typed, so the text is read as the same expression.
The one gap is that between a mode and the padding right behind it, which the grammar leaves closed:
with white space in it the text is no expression (`read_insert_blank`).
-/

namespace Numbering

open Text Expression

theorem ModeSpelling.text_ne_nil (mode : ModeSpelling) : mode.text ≠ [] := by
  cases mode <;> simp [ModeSpelling.text]

theorem PadSpelling.text_ne_nil (pad : PadSpelling) : pad.text ≠ [] := by
  rcases pad with ⟨_ | _ | c, width⟩ <;> simp [PadSpelling.text]

namespace Spelling

/-- The parts in front of a mode that are present, as they are typed. -/
def early (spelling : Spelling) : List Text :=
  [spelling.start.text, typed OperatorPart.text spelling.operator, typed id spelling.step].filter
    (· ≠ [])

/-- The parts behind the padding that are present, as they are typed; a repeat is its mark and its
digits. -/
def late (spelling : Spelling) : List Text :=
  [typed (fun repeats => [repeats.mark]) spelling.repeats,
    typed RepeatSpelling.digits spelling.repeats, spelling.flags].filter (· ≠ [])

/-- The parts that are present, as they are typed. -/
def pieces (spelling : Spelling) : List Text :=
  spelling.early ++
    [typed ModeSpelling.text spelling.mode, typed PadSpelling.text spelling.pad].filter (· ≠ []) ++
    spelling.late

/-- The parts are cut between a mode and the padding behind it. -/
def ClosedGap (spelling : Spelling) (before after : List Text) : Prop :=
  ∃ mode ∈ spelling.mode, ∃ pad ∈ spelling.pad,
    before = spelling.early ++ [mode.text] ∧ after = pad.text :: spelling.late

/-- The parts that are present, a mode and the padding behind it as one. -/
def joined (spelling : Spelling) : List Text :=
  spelling.early ++
    [typed ModeSpelling.text spelling.mode ++ typed PadSpelling.text spelling.pad].filter
      (· ≠ []) ++
    spelling.late

variable {spelling : Spelling} {blanks : Blanks} {text front back blank rest : Text}
  {before after : List Text}

/-! ## A layout as a spaced text -/

theorem spaced_joined_iff : Spaced spelling.joined text ↔
    ∃ blanks : Blanks, blanks.WellFormed ∧ text = spelling.layout blanks := by
  rw [joined, early, late, ← List.filter_append, ← List.filter_append, spaced_filter_iff]
  simp only [List.cons_append, List.nil_append, spaced_cons_iff, spaced_nil_iff]
  constructor
  · rintro ⟨first, _, rfl, firstWhite, operator, _, rfl, operatorWhite, step, _, rfl, stepWhite,
      mode, _, rfl, modeWhite, gap, _, rfl, gapWhite, count, _, rfl, countWhite, flags, last, rfl,
      flagsWhite, lastWhite⟩
    cases given : spelling.repeats with
    | none =>
      refine ⟨⟨first, operator, step, mode, gap ++ count, [], flags, last⟩,
        ⟨firstWhite, operatorWhite, stepWhite, modeWhite, isBlank_append.mpr ⟨gapWhite, countWhite⟩,
          isBlank_nil, flagsWhite, lastWhite⟩, ?_⟩
      simp [layout, given, typed]
    | some repeats =>
      refine ⟨⟨first, operator, step, mode, gap, count, flags, last⟩,
        ⟨firstWhite, operatorWhite, stepWhite, modeWhite, gapWhite, countWhite, flagsWhite,
          lastWhite⟩, ?_⟩
      simp [layout, given, typed, RepeatSpelling.text]
  · rintro ⟨blanks, white, rfl⟩
    cases given : spelling.repeats with
    | none =>
      refine ⟨blanks.first, _, ?_, white.first, blanks.operator, _, rfl, white.operator,
        blanks.step, _, rfl, white.step, blanks.mode, _, rfl, white.mode,
        blanks.repeats, _, rfl, white.repeats, [], _, rfl, isBlank_nil,
        blanks.flags, blanks.last, rfl, white.flags, white.last⟩
      simp [layout, given, typed]
    | some repeats =>
      refine ⟨blanks.first, _, ?_, white.first, blanks.operator, _, rfl, white.operator,
        blanks.step, _, rfl, white.step, blanks.mode, _, rfl, white.mode,
        blanks.repeats, _, rfl, white.repeats, blanks.count, _, rfl, white.count,
        blanks.flags, blanks.last, rfl, white.flags, white.last⟩
      simp [layout, given, typed, RepeatSpelling.text]

/-- Only a mode and the padding behind it are more than one of the parts. -/
theorem joined_eq (spelling : Spelling) : spelling.joined = spelling.pieces ∨
    ∃ mode ∈ spelling.mode, ∃ pad ∈ spelling.pad,
      spelling.pieces = spelling.early ++ mode.text :: pad.text :: spelling.late ∧
      spelling.joined = spelling.early ++ (mode.text ++ pad.text) :: spelling.late := by
  cases given : spelling.mode with
  | none => simp [joined, pieces, given, typed]
  | some mode =>
    cases padded : spelling.pad with
    | none => simp [joined, pieces, given, padded, typed, ModeSpelling.text_ne_nil]
    | some pad =>
      refine .inr ⟨mode, rfl, pad, rfl, ?_, ?_⟩ <;>
        simp [joined, pieces, given, padded, typed, ModeSpelling.text_ne_nil,
          PadSpelling.text_ne_nil]

theorem visible_of_mem_typed {α : Type} {level : Nat} {text : α → Text} {part : Option α}
    (opens : ∀ value ∈ part, Opens (level + 1) (text value)) (filled : typed text part ≠ []) :
    Visible (typed text part) := by
  cases part with
  | none => exact absurd rfl filled
  | some value => exact (opens value rfl).visible

theorem visible_of_mem_pieces (formed : spelling.WellFormed) :
    ∀ piece ∈ spelling.pieces, Visible piece := by
  intro piece member
  rw [pieces, early, late, ← List.filter_append, ← List.filter_append] at member
  obtain ⟨listed, filled⟩ := List.mem_filter.mp member
  have filled : piece ≠ [] := of_decide_eq_true filled
  simp only [List.cons_append, List.nil_append, List.mem_cons, List.not_mem_nil, or_false] at listed
  rcases listed with rfl | rfl | rfl | rfl | rfl | rfl | rfl | rfl
  · obtain ⟨level, opens⟩ := opens_start formed.start
    exact opens.visible
  · exact visible_of_mem_typed (fun operator _ => opens_operator operator) filled
  · exact visible_of_mem_typed (opens_step formed) filled
  · exact visible_of_mem_typed (fun mode given => opens_mode (formed.mode mode given)) filled
  · exact visible_of_mem_typed (fun pad _ => opens_pad pad) filled
  · have opens : ∀ repeats ∈ spelling.repeats, Opens 2 [repeats.mark] := by
      intro repeats given
      obtain ⟨_, _, ⟨⟩, ranked⟩ := opens_repeats (formed.repeats repeats given) []
      exact ⟨repeats.mark, [], rfl, ranked⟩
    exact visible_of_mem_typed opens filled
  · exact visible_of_mem_typed (fun repeats given => opens_digits (formed.repeats repeats given).2)
      filled
  · exact (opens_flags formed filled).visible

/-! ## White space in a gap that is free -/

theorem spaced_joined_insert (formed : spelling.WellFormed)
    (whole : Spaced spelling.joined (front ++ back)) (cut : spelling.pieces = before ++ after)
    (spaced : Spaced before front) (white : blank.IsBlank)
    (free : ¬ spelling.ClosedGap before after) :
    Spaced spelling.joined (front ++ (blank ++ back)) := by
  have visible := visible_of_mem_pieces formed
  rcases spelling.joined_eq with same | ⟨mode, given, pad, padded, apart, joined⟩
  · rw [same, cut] at whole
    rw [cut] at visible
    rw [same, cut]
    exact whole.insert visible spaced white
  · rw [joined] at whole ⊢
    rw [apart] at cut visible
    refine Spaced.insert_joined visible whole cut ?_ spaced white
    rintro ⟨rfl, rfl⟩
    exact free ⟨mode, given, pad, padded, rfl, rfl⟩

theorem ends_insert {start : StartPart} (ends : StartPart.Ends start (front ++ back))
    (white : blank.IsBlank) : StartPart.Ends start (front ++ (blank ++ back)) := by
  cases front with
  | cons c rest => cases start <;> exact ends
  | nil =>
    cases blank with
    | nil => exact ends
    | cons c rest =>
      have space := white c List.mem_cons_self
      cases start with
      | numeral sign digits =>
        rintro _ ⟨⟩
        exact isDigit_of_rank_ne (by rw [rank_eq_zero_iff.mpr space]; decide)
      | word letters =>
        rintro _ ⟨⟩
        exact Character.isWordLetter_of_isWhiteSpace space

theorem exists_pieces_eq (formed : spelling.WellFormed) :
    ∃ others, spelling.pieces = spelling.start.text :: others := by
  obtain ⟨level, c, rest, written, -⟩ := opens_start formed.start
  simp [pieces, early, written]

/-- More white space leaves the start where it ended. -/
theorem exists_ends_insert (formed : spelling.WellFormed) (cut : spelling.pieces = before ++ after)
    (spaced : Spaced before front) (white : blank.IsBlank)
    (same : skipBlank (front ++ back) = spelling.start.text ++ rest)
    (ends : StartPart.Ends spelling.start rest) :
    ∃ behind, skipBlank (front ++ (blank ++ back)) = spelling.start.text ++ behind ∧
      StartPart.Ends spelling.start behind := by
  cases spaced with
  | nil more =>
    rw [skipBlank_append more] at same ⊢
    exact ⟨rest, by rw [skipBlank_append white, same], ends⟩
  | @cons first piece tail pieces more later =>
    obtain ⟨others, whole⟩ := exists_pieces_eq formed
    obtain rfl : spelling.start.text = piece := (List.cons.inj (whole.symm.trans cut)).1
    simp only [List.append_assoc, skipBlank_append more, skipBlank_start formed.start] at same ⊢
    obtain rfl := List.append_cancel_left same
    exact ⟨_, rfl, ends_insert ends white⟩

theorem isReading_insert (reading : spelling.IsReading (front ++ back))
    (cut : spelling.pieces = before ++ after) (spaced : Spaced before front) (white : blank.IsBlank)
    (free : ¬ spelling.ClosedGap before after) :
    spelling.IsReading (front ++ (blank ++ back)) := by
  have formed := reading.1.1
  obtain ⟨blanks, blanksWhite, same, ends⟩ := reading.exists_layout
  have whole := spaced_joined_iff.mpr ⟨blanks, blanksWhite, same⟩
  obtain ⟨wider, widerWhite, again⟩ :=
    spaced_joined_iff.mp (spaced_joined_insert formed whole cut spaced white free)
  have skipped := skipBlank_layout formed blanksWhite
  rw [← same] at skipped
  obtain ⟨behind, widened, ends⟩ := exists_ends_insert formed cut spaced white skipped ends
  rw [again, skipBlank_layout formed widerWhite] at widened
  obtain rfl := List.append_cancel_left widened
  rw [again]
  exact isReading_layout formed widerWhite ends

/-! ## White space in front of the padding of a mode -/

theorem spaced_pieces (reading : spelling.Writes text) : Spaced spelling.pieces text := by
  have joined := spaced_joined_iff.mpr reading.2
  rcases spelling.joined_eq with same | ⟨mode, -, pad, -, apart, whole⟩
  · rwa [same] at joined
  · rw [whole] at joined
    rw [apart]
    exact joined.part

/-- Behind a mode and white space there is no place for padding. -/
theorem scanLast?_eq_none_of_pad {start : StartPart} {operator : Option OperatorPart}
    {step : Option Text} {mode : Option ModePart} {pad : PadSpelling}
    (space : ∀ c ∈ text.head?, Character.isWhiteSpace c = true)
    (behind : skipBlank text = pad.text ++ rest) :
    scanLast? start operator step mode text = none := by
  rw [Pattern.pad_text_eq, List.cons_append] at behind
  have unpadded : Parts.scanPad text = (none, text) := by
    have formed : ∀ pad ∈ (none : Option PadSpelling), pad.WellFormed := by simp
    refine scanPad_typed formed fun c opening => ?_
    rw [rank_eq_zero_iff.mpr (space c opening)]
    decide
  have repeats (tail : Text) : Parts.scanRepeats (':' :: tail) = (none, ':' :: tail) := rfl
  have flags (tail : Text) : (':' :: tail).dropWhile Parts.isFlag = ':' :: tail := rfl
  have stays := skipBlank_skipBlank text
  rw [behind] at stays
  simp only [scanLast?, unpadded, behind, repeats, flags, stays]
  rfl

theorem exists_throughMode {mode : ModeSpelling} (given : spelling.mode = some mode)
    (spaced : Spaced (spelling.early ++ [mode.text]) front) :
    ∃ (blanks : Blanks) (gap : Text), blanks.WellFormed ∧ gap.IsBlank ∧ ∀ rest,
      front ++ rest =
        blanks.first ++ (spelling.start.text ++ spelling.throughMode blanks (gap ++ rest)) := by
  have shown : [mode.text] = [typed ModeSpelling.text spelling.mode].filter (· ≠ []) := by
    simp [given, typed, mode.text_ne_nil]
  rw [shown, early, ← List.filter_append, spaced_filter_iff] at spaced
  simp only [List.cons_append, List.nil_append, spaced_cons_iff, spaced_nil_iff] at spaced
  obtain ⟨first, _, rfl, firstWhite, operator, _, rfl, operatorWhite, step, _, rfl, stepWhite,
    space, gap, rfl, spaceWhite, gapWhite⟩ := spaced
  refine ⟨⟨first, operator, step, space, [], [], [], []⟩, gap, ?_, gapWhite, fun rest => ?_⟩
  · exact ⟨firstWhite, operatorWhite, stepWhite, spaceWhite, isBlank_nil, isBlank_nil, isBlank_nil,
      isBlank_nil⟩
  · simp [throughMode]

theorem scan?_closedGap (reading : spelling.IsReading (front ++ back))
    (cut : spelling.pieces = before ++ after) (spaced : Spaced before front)
    (white : blank.IsBlank) (closed : spelling.ClosedGap before after) (filled : blank ≠ []) :
    Parts.scan? (front ++ (blank ++ back)) = none := by
  have formed := reading.1.1
  have visible := visible_of_mem_pieces formed
  have whole := spaced_pieces reading.1
  rw [cut] at visible whole
  have later := Spaced.of_append visible spaced whole
  obtain ⟨blanks, blanksWhite, same, ends⟩ := reading.exists_layout
  have skipped := skipBlank_layout formed blanksWhite
  rw [← same] at skipped
  obtain ⟨behind, widened, ends⟩ := exists_ends_insert formed cut spaced white skipped ends
  obtain ⟨mode, given, pad, -, rfl, rfl⟩ := closed
  obtain ⟨tail, padded, -⟩ := (spaced_cons_iff_of_visible (opens_pad pad).visible).mp later
  obtain ⟨spaces, gap, spacesWhite, gapWhite, through⟩ := exists_throughMode given spaced
  rw [through, skipBlank_append spacesWhite.first, skipBlank_start formed.start] at widened
  obtain rfl := List.append_cancel_left widened
  have behindMode : skipBlank (gap ++ (blank ++ back)) = pad.text ++ tail := by
    rw [skipBlank_append gapWhite, skipBlank_append white, padded]
  have space : ∀ c ∈ (gap ++ (blank ++ back)).head?, Character.isWhiteSpace c = true := by
    intro c first
    rw [← List.append_assoc, List.head?_append_of_ne_nil _ (by simp [filled])] at first
    exact isBlank_append.mpr ⟨gapWhite, white⟩ c (List.mem_of_head? first)
  have low := (opens_pad pad).opensBelow behindMode
  rw [through, scan?_throughMode formed spacesWhite low ends, Option.mem_def.mp given]
  exact scanLast?_eq_none_of_pad space behindMode

end Spelling

namespace Expression

/-- More white space in front of, behind or between the parts that are present leaves an expression
the same, but between a mode and the padding right behind it makes the text no expression. -/
theorem read_insert_blank {alphabet : Alphabet} {text : Text} {expression : Expression}
    (accepted : read alphabet text = .ok expression) :
    ∃ spelling : Spelling, spelling.IsReading text ∧ Spaced spelling.pieces text ∧
      ∀ (before after : List Text) (front back blank : Text), spelling.pieces = before ++ after →
        text = front ++ back → Spaced before front → blank.IsBlank →
          ((spelling.ClosedGap before after → blank = []) →
            read alphabet (front ++ (blank ++ back)) = .ok expression) ∧
          (spelling.ClosedGap before after → blank ≠ [] →
            read alphabet (front ++ (blank ++ back)) = .error .grammar) := by
  obtain ⟨spelling, reading, free, denotes⟩ := exists_isReading_of_read accepted
  refine ⟨spelling, reading, Spelling.spaced_pieces reading.1, ?_⟩
  rintro before after front back blank cut rfl spaced white
  refine ⟨fun unclosed => ?_, fun closed filled => ?_⟩
  · by_cases closed : spelling.ClosedGap before after
    · rw [unclosed closed]
      exact accepted
    · exact read_eq_ok_of_denotes (Spelling.isReading_insert reading cut spaced white closed) free
        denotes
  · rw [read, Spelling.scan?_closedGap reading cut spaced white closed filled]

/-- Behind its start `1#16:3` may have white space, in front of its padding it may not. -/
theorem read_insert_blank_hexadecimal :
    ∃ expression, read .latin "1#16:3".toList = .ok expression ∧
      read .latin "1 #16:3".toList = .ok expression ∧
      read .latin "1#16 :3".toList = .error .grammar := by
  let known : Spelling :=
    ⟨.numeral none ['1'], none, none, some (.radix ['1', '6']), some ⟨none, ['3']⟩, none, []⟩
  have formed : known.WellFormed :=
    ⟨⟨by simp, by simp [Text.IsDigits]⟩, by simp [known],
      by simp [known, ModeSpelling.WellFormed, Text.IsDigits],
      by simp [known, PadSpelling.WellFormed, Text.IsDigits], by simp [known], by simp [known]⟩
  have writes : known.Writes "1#16:3".toList := ⟨formed, .none, Blanks.wellFormed_none, rfl⟩
  have isReading := writes.isReading_of_scan? (by decide)
  have accepted : read .latin "1#16:3".toList =
    .ok { ofStart (.numeric 1) with radix := 16, width := 3 } := by decide
  obtain ⟨spelling, reading, -, insert⟩ := read_insert_blank accepted
  obtain rfl : spelling = known := by
    have parts := Option.some.inj (reading.scan?.symm.trans isReading.scan?)
    exact reading.1.unique writes (congrArg Parts.start parts)
  have white : Text.IsBlank [' '] := by
    have blank : Character.isWhiteSpace ' ' = true := by decide
    simp [Text.IsBlank, blank]
  have start : Spaced [['1']] ['1'] := .cons isBlank_nil (.nil isBlank_nil)
  have moded : Spaced [['1'], ['#', '1', '6']] ['1', '#', '1', '6'] :=
    .cons isBlank_nil (.cons isBlank_nil (.nil isBlank_nil))
  refine ⟨_, accepted, ?_, ?_⟩
  · refine (insert _ [['#', '1', '6'], [':', '3']] _ ['#', '1', '6', ':', '3'] _ rfl rfl start
      white).1 ?_
    rintro ⟨mode, ⟨⟩, pad, ⟨⟩, cut, -⟩
    exact absurd cut (by decide)
  · refine (insert _ [[':', '3']] _ [':', '3'] _ rfl rfl moded white).2 ?_ (by simp)
    exact ⟨_, rfl, _, rfl, rfl, rfl⟩

/-- White space in front of padding is taken without a mode, but not behind one. -/
theorem read_blank_before_pad :
    read .latin "1 :3".toList = read .latin "1:3".toList ∧
      read .latin "1#16:3".toList =
        .ok { ofStart (.numeric 1) with radix := 16, width := 3 } ∧
      read .latin "1#16 :3".toList = .error .grammar := by
  decide

end Expression

end Numbering
