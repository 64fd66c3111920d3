import Numbering.Proofs.Expression.Scan

/-! # Layouts, from the front

A layout is followed part by part: `behindStart` is what stands behind its start, `behindOperator`
what stands behind its operator, and so on. Each of these texts opens below the rank of the part it
stands behind. Two layouts of one text with one start therefore have all parts in common
(`Spelling.Writes.unique`), and a layout whose start cannot go on is the one that the scanner finds.
-/

namespace Numbering.Spelling

open Expression Parts

section Behind
variable (spelling : Spelling) (blanks : Blanks)

def behindRepeats : Text :=
  blanks.flags ++ (spelling.flags ++ blanks.last)

def behindPad : Text :=
  blanks.repeats ++
    (typed (RepeatSpelling.text blanks.count) spelling.repeats ++ spelling.behindRepeats blanks)

def behindMode : Text :=
  typed PadSpelling.text spelling.pad ++ spelling.behindPad blanks

def behindStep : Text :=
  blanks.mode ++ (typed ModeSpelling.text spelling.mode ++ spelling.behindMode blanks)

def behindOperator : Text :=
  blanks.step ++ (typed id spelling.step ++ spelling.behindStep blanks)

def behindStart : Text :=
  blanks.operator ++ (typed OperatorPart.text spelling.operator ++ spelling.behindOperator blanks)

/-- What stands behind the start, up to the mode and then as it may be. -/
def throughMode (rest : Text) : Text :=
  blanks.operator ++ (typed OperatorPart.text spelling.operator ++
    (blanks.step ++ (typed id spelling.step ++
      (blanks.mode ++ (typed ModeSpelling.text spelling.mode ++ rest)))))

theorem behindStart_eq :
    spelling.behindStart blanks = spelling.throughMode blanks (spelling.behindMode blanks) := rfl

theorem layout_eq :
    spelling.layout blanks =
      blanks.first ++ (spelling.start.text ++ spelling.behindStart blanks) := by
  simp only [layout, behindStart, behindOperator, behindStep, behindMode, behindPad, behindRepeats,
    List.append_assoc]

end Behind

/-! ## What stands behind each part opens lower -/

section Formed
variable {spelling : Spelling} {blanks : Blanks}

theorem opens_step (formed : spelling.WellFormed) :
    ∀ digits ∈ spelling.step, Opens 5 (id digits) :=
  fun digits given => opens_digits (formed.step digits given)

theorem opens_flags (formed : spelling.WellFormed) (filled : spelling.flags ≠ []) :
    Opens 1 spelling.flags := by
  obtain ⟨c, rest, written⟩ := List.exists_cons_of_ne_nil filled
  refine ⟨c, rest, written, ?_⟩
  rcases formed.flags c (by simp [written]) with rfl | rfl <;> decide

theorem opensBelow_behindRepeats (formed : spelling.WellFormed) (white : blanks.WellFormed) :
    OpensBelow 2 (spelling.behindRepeats blanks) := by
  refine opensBelow_append white.flags ?_
  by_cases none : spelling.flags = []
  · have empty : Text.skipBlank blanks.last = [] := List.dropWhile_eq_nil_iff.mpr white.last
    simp [OpensBelow, none, empty]
  · have opens := opens_flags formed none
    exact opens.opensBelow (skipBlank_of_opens opens _)

theorem opensBelow_behindPad (formed : spelling.WellFormed) (white : blanks.WellFormed) :
    OpensBelow 3 (spelling.behindPad blanks) :=
  opensBelow_append white.repeats <|
    opensBelow_typed (fun repeats given => opens_repeats (formed.repeats repeats given) _)
      (opensBelow_behindRepeats formed white)

theorem opensBelow_behindMode (formed : spelling.WellFormed) (white : blanks.WellFormed) :
    OpensBelow 4 (spelling.behindMode blanks) :=
  opensBelow_typed (fun pad _ => opens_pad pad) (opensBelow_behindPad formed white)

theorem opensBelow_mode (formed : spelling.WellFormed) (white : blanks.WellFormed) {rest : Text}
    (low : OpensBelow 4 rest) :
    OpensBelow 5 (blanks.mode ++ (typed ModeSpelling.text spelling.mode ++ rest)) :=
  opensBelow_append white.mode <|
    opensBelow_typed (fun mode given => opens_mode (formed.mode mode given)) low

theorem opensBelow_step (formed : spelling.WellFormed) (white : blanks.WellFormed) {rest : Text}
    (low : OpensBelow 5 rest) : OpensBelow 6 (blanks.step ++ (typed id spelling.step ++ rest)) :=
  opensBelow_append white.step <| opensBelow_typed (opens_step formed) low

theorem opensBelow_behindStep (formed : spelling.WellFormed) (white : blanks.WellFormed) :
    OpensBelow 5 (spelling.behindStep blanks) :=
  opensBelow_mode formed white (opensBelow_behindMode formed white)

theorem opensBelow_behindOperator (formed : spelling.WellFormed) (white : blanks.WellFormed) :
    OpensBelow 6 (spelling.behindOperator blanks) :=
  opensBelow_step formed white (opensBelow_behindStep formed white)

/-! ## The scanner finds the parts of a layout -/

theorem opens_numeral {sign : Option Char} {digits : Text}
    (formed : (StartPart.numeral sign digits).WellFormed) :
    ∃ level, (level = 5 ∨ level = 6) ∧ Opens level (StartPart.numeral sign digits).text := by
  cases sign with
  | none => exact ⟨5, .inl rfl, opens_digits formed.2⟩
  | some c =>
    refine ⟨6, .inr rfl, c, digits, rfl, ?_⟩
    rcases formed.1 c rfl with rfl | rfl <;> decide

theorem opens_word {letters : Text} (formed : (StartPart.word letters).WellFormed) :
    ∃ level, (4 ≤ level ∧ level ≠ 5 ∧ level ≠ 6) ∧ Opens level (StartPart.word letters).text := by
  obtain ⟨nonempty, all⟩ := formed
  cases letters with
  | nil => exact absurd rfl nonempty
  | cons c rest =>
    exact ⟨rank c, four_le_rank_of_isWordLetter (all c (by simp)), c, rest, rfl, rfl⟩

theorem opens_start {start : StartPart} (formed : start.WellFormed) :
    ∃ level, Opens (level + 1) start.text := by
  cases start with
  | numeral sign digits =>
    obtain ⟨level, rfl | rfl, opens⟩ := opens_numeral formed
    · exact ⟨4, opens⟩
    · exact ⟨5, opens⟩
  | word letters =>
    obtain ⟨level, ⟨high, -⟩, opens⟩ := opens_word formed
    obtain ⟨lower, rfl⟩ := Nat.exists_eq_add_of_le' high
    exact ⟨lower + 3, opens⟩

theorem skipBlank_start {start : StartPart} (formed : start.WellFormed) (rest : Text) :
    Text.skipBlank (start.text ++ rest) = start.text ++ rest := by
  obtain ⟨level, opens⟩ := opens_start formed
  exact skipBlank_of_opens opens rest

theorem scanFlags {blank flags last : Text} (white : blank.IsBlank)
    (all : ∀ c ∈ flags, c = '!' ∨ c = '@') (trailing : last.IsBlank) :
    (Text.skipBlank (blank ++ (flags ++ last))).takeWhile isFlag = flags ∧
      Text.skipBlank ((Text.skipBlank (blank ++ (flags ++ last))).dropWhile isFlag) = [] := by
  have flagged : ∀ c ∈ flags, isFlag c = true := by
    intro c member
    rcases all c member with rfl | rfl <;> rfl
  have stop : ∀ c ∈ last.head?, isFlag c = false := by
    intro c first
    cases flag : isFlag c with
    | false => rfl
    | true =>
      have ranked := rank_of_isFlag flag
      rw [rank_eq_zero_iff.mpr (trailing c (List.mem_of_head? first))] at ranked
      omega
  have empty : Text.skipBlank last = [] := List.dropWhile_eq_nil_iff.mpr trailing
  rw [skipBlank_append white]
  cases flags with
  | nil =>
    rw [List.nil_append, empty]
    exact ⟨rfl, rfl⟩
  | cons c rest =>
    have opens : Opens 1 (c :: rest) := ⟨c, rest, rfl, rank_of_isFlag (flagged c (by simp))⟩
    rw [skipBlank_of_opens opens, takeWhile_append flagged stop, dropWhile_append flagged stop]
    exact ⟨rfl, empty⟩

/-- A scanner finds a part in a text, behind white space and in front of a rest. -/
structure Finds {α β : Type} (scan : Text → Option β × Text) (typing : α → Text) (part : α → β)
    (text : Text) (value : Option α) (rest : Text) : Prop where
  front : Text.skipBlank text = typed typing value ++ left value rest
  found : scan (Text.skipBlank text) = (value.map part, left value rest)

section Finds
variable {α β : Type} {scan : Text → Option β × Text} {typing : α → Text} {part : α → β}

theorem Finds.of_append {level : Nat} {blank rest : Text} {value : Option α}
    (white : blank.IsBlank) (opens : ∀ part ∈ value, Opens (level + 1) (typing part))
    (found : scan (typed typing value ++ left value rest) = (value.map part, left value rest)) :
    Finds scan typing part (blank ++ (typed typing value ++ rest)) value rest := by
  have front := skipBlank_append_typed white opens rest
  exact ⟨front, front ▸ found⟩

/-- What a scanner finds is determined by the text, if the typed part settles what the scanner does
not tell. -/
theorem Finds.unique {retyping : α → Text} {text other rest after : Text}
    {value again : Option α} (finds : Finds scan typing part text value rest)
    (refinds : Finds scan retyping part other again after)
    (same : Text.skipBlank text = Text.skipBlank other)
    (settled : ∀ first second, typing first = retyping second → part first = part second →
      first = second) :
    value = again ∧ Text.skipBlank rest = Text.skipBlank after := by
  have scanned := finds.found.symm.trans (same ▸ refinds.found)
  obtain ⟨parts, rests⟩ := Prod.mk.inj scanned
  have texts : typed typing value = typed retyping again := by
    have fronts := finds.front.symm.trans (same.trans refinds.front)
    rw [rests] at fronts
    exact List.append_cancel_right fronts
  refine ⟨?_, ?_⟩
  · rcases value with _ | first <;> rcases again with _ | second
    · rfl
    · simp at parts
    · simp at parts
    · rw [settled first second texts (Option.some.inj parts)]
  · rw [← skipBlank_left value rest, rests, skipBlank_left]

end Finds

section Parts
variable {blank rest : Text}

theorem finds_operator_append (white : blank.IsBlank) (operator : Option OperatorPart)
    (low : OpensBelow 6 rest) :
    Finds scanOperator OperatorPart.text id (blank ++ (typed OperatorPart.text operator ++ rest))
      operator rest := by
  refine .of_append white (fun operator _ => opens_operator operator) ?_
  rw [Option.map_id_fun, id]
  exact scanOperator_typed _ (head_left low _)

theorem finds_step_append (white : blank.IsBlank) {step : Option Text}
    (formed : ∀ digits ∈ step, Text.IsDigits digits) (low : OpensBelow 5 rest) :
    Finds scanOptionalDigits id id (blank ++ (typed id step ++ rest)) step rest := by
  refine .of_append white (fun digits given => opens_digits (formed digits given)) ?_
  rw [Option.map_id_fun, id]
  exact scanOptionalDigits_typed formed (head_left low _)

theorem finds_mode_append (white : blank.IsBlank) {mode : Option ModeSpelling}
    (formed : ∀ part ∈ mode, part.WellFormed) (low : OpensBelow 4 rest) :
    Finds scanMode ModeSpelling.text ModeSpelling.part
      (blank ++ (typed ModeSpelling.text mode ++ rest)) mode rest :=
  .of_append white (fun mode given => opens_mode (formed mode given))
    (scanMode_typed formed (head_left low _))

end Parts

theorem finds_operator (formed : spelling.WellFormed) (white : blanks.WellFormed) :
    Finds scanOperator OperatorPart.text id (spelling.behindStart blanks) spelling.operator
      (spelling.behindOperator blanks) :=
  finds_operator_append white.operator _ (opensBelow_behindOperator formed white)

theorem finds_step (formed : spelling.WellFormed) (white : blanks.WellFormed) :
    Finds scanOptionalDigits id id (spelling.behindOperator blanks) spelling.step
      (spelling.behindStep blanks) :=
  finds_step_append white.step formed.step (opensBelow_behindStep formed white)

theorem finds_mode (formed : spelling.WellFormed) (white : blanks.WellFormed) :
    Finds scanMode ModeSpelling.text ModeSpelling.part (spelling.behindStep blanks) spelling.mode
      (spelling.behindMode blanks) :=
  finds_mode_append white.mode formed.mode (opensBelow_behindMode formed white)

theorem finds_pad (formed : spelling.WellFormed) (white : blanks.WellFormed) :
    Finds scanPad PadSpelling.text PadSpelling.part (spelling.behindMode blanks) spelling.pad
      (spelling.behindPad blanks) :=
  .of_append Text.isBlank_nil (fun pad _ => opens_pad pad)
    (scanPad_typed formed.pad (head_left (opensBelow_behindPad formed white) _))

theorem finds_repeats (formed : spelling.WellFormed) (white : blanks.WellFormed) :
    Finds scanRepeats (RepeatSpelling.text blanks.count) RepeatSpelling.digits
      (spelling.behindPad blanks) spelling.repeats (spelling.behindRepeats blanks) :=
  .of_append white.repeats
    (fun repeats given => opens_repeats (formed.repeats repeats given) _)
    (scanRepeats_typed white.count formed.repeats
      (head_left (opensBelow_behindRepeats formed white) _))

/-- Padding follows its mode without white space between them, so what the scanner leaves behind a
mode is not skipped before it looks for padding. -/
theorem exists_scanPad (formed : spelling.WellFormed) (white : blanks.WellFormed) :
    ∃ rest, scanPad (left spelling.mode (spelling.behindMode blanks)) =
        (spelling.pad.map PadSpelling.part, rest) ∧
      Text.skipBlank rest = Text.skipBlank (spelling.behindPad blanks) := by
  cases spelling.mode with
  | none => exact ⟨_, (finds_pad formed white).found, skipBlank_left _ _⟩
  | some _ =>
    exact ⟨_, scanPad_typed formed.pad (opensBelow_behindPad formed white).head, rfl⟩

theorem skipBlank_layout (formed : spelling.WellFormed) (white : blanks.WellFormed) :
    Text.skipBlank (spelling.layout blanks) =
      spelling.start.text ++ spelling.behindStart blanks := by
  rw [layout_eq, skipBlank_append white.first, skipBlank_start formed.start]

/-- The end of a scan: what it finds behind a mode, given the parts up to there. -/
def scanLast? (start : StartPart) (operator : Option OperatorPart) (step : Option Text)
    (mode : Option ModePart) (text : Text) : Option Parts :=
  let (pad, rest) := scanPad text
  let (repeats, rest) := scanRepeats (Text.skipBlank rest)
  let flagged := Text.skipBlank rest
  let flags := flagged.takeWhile isFlag
  if (Text.skipBlank (flagged.dropWhile isFlag)).isEmpty then
    some ⟨start, operator, step, mode, pad, repeats, flags⟩
  else none

/-- The scanner finds the parts up to the mode, if the start cannot go on. -/
theorem scan?_throughMode (formed : spelling.WellFormed) (white : blanks.WellFormed) {rest : Text}
    (low : OpensBelow 4 rest)
    (ends : StartPart.Ends spelling.start (spelling.throughMode blanks rest)) :
    scan? (blanks.first ++ (spelling.start.text ++ spelling.throughMode blanks rest)) =
      scanLast? spelling.start spelling.operator spelling.step
        (spelling.mode.map ModeSpelling.part) (left spelling.mode rest) := by
  have behindStep := opensBelow_mode formed white low
  have behindOperator := opensBelow_step formed white behindStep
  have start := scanStart?_append formed.start ends
  have operator := (finds_operator_append white.operator spelling.operator behindOperator).found
  have step := (finds_step_append white.step formed.step behindStep).found
  have mode := (finds_mode_append white.mode formed.mode low).found
  rw [throughMode] at start ⊢
  rw [scan?, skipBlank_append white.first, skipBlank_start formed.start, start]
  simp only [operator, step, mode, skipBlank_left, Option.bind_eq_bind, Option.bind_some,
    Option.map_id_fun, id]
  rfl

/-- The scanner finds the parts of a layout whose start cannot go on. -/
theorem scan?_layout (formed : spelling.WellFormed) (white : blanks.WellFormed)
    (ends : StartPart.Ends spelling.start (spelling.behindStart blanks)) :
    scan? (spelling.layout blanks) = some spelling.parts := by
  obtain ⟨padded, pad, behind⟩ := exists_scanPad formed white
  have repeats := (finds_repeats formed white).found
  have flags := scanFlags white.flags formed.flags white.last
  rw [← behindRepeats] at flags
  rw [layout_eq, behindStart_eq, scan?_throughMode formed white (opensBelow_behindMode formed white)
    ends]
  simp only [scanLast?, pad, behind, repeats, flags, skipBlank_left]
  rfl

/-- A start alone is scanned as that start. -/
theorem scan?_start {start : StartPart} (formed : start.WellFormed) (ends : StartPart.Ends start []) :
    Parts.scan? start.text = some ⟨start, none, none, none, none, none, []⟩ := by
  have visible := skipBlank_start formed []
  have found := scanStart?_append formed ends
  rw [List.append_nil] at visible found
  rw [Parts.scan?, visible, found]
  rfl

/-! ## One text, one start, one spelling -/

theorem eq_of_mode_text {mode other : ModeSpelling} (texts : mode.text = other.text)
    (parts : mode.part = other.part) : mode = other := by
  cases mode <;> cases other <;> simp_all [ModeSpelling.text, ModeSpelling.part]

theorem eq_of_pad_text {pad other : PadSpelling} (texts : pad.text = other.text)
    (parts : pad.part = other.part) : pad = other := by
  obtain ⟨fill, width⟩ := pad
  obtain ⟨otherFill, otherWidth⟩ := other
  obtain ⟨fills, widths⟩ := PadPart.mk.inj parts
  dsimp only at fills widths
  subst widths
  have lengths := congrArg List.length texts
  rcases fill with _ | _ | c <;> rcases otherFill with _ | _ | d <;>
    simp only [PadSpelling.text, List.length_cons] at lengths
  · rfl
  · omega
  · omega
  · omega
  · rfl
  · omega
  · omega
  · omega
  · obtain rfl : c = d := Option.some.inj fills
    rfl

theorem eq_of_repeats_text {blank white : Text} {repeats other : RepeatSpelling}
    (texts : repeats.text blank = other.text white) (digits : repeats.digits = other.digits) :
    repeats = other := by
  obtain ⟨mark, _⟩ := repeats
  obtain ⟨otherMark, _⟩ := other
  obtain rfl : mark = otherMark := (List.cons.inj texts).1
  exact congrArg _ digits

/-- Two layouts of one text that agree on the start agree on every part. -/
theorem eq_of_layout_eq {other : Spelling} {spaces : Blanks}
    (formed : spelling.WellFormed) (white : blanks.WellFormed)
    (otherFormed : other.WellFormed) (otherWhite : spaces.WellFormed)
    (same : spelling.layout blanks = other.layout spaces) (start : spelling.start = other.start) :
    spelling = other := by
  have behindStart : spelling.behindStart blanks = other.behindStart spaces := by
    have skipped := congrArg Text.skipBlank same
    rw [skipBlank_layout formed white, skipBlank_layout otherFormed otherWhite, start] at skipped
    exact List.append_cancel_left skipped
  -- from the front, each part is settled by the text that is left behind the one before it
  obtain ⟨operator, behindOperator⟩ := (finds_operator formed white).unique
    (finds_operator otherFormed otherWhite) (congrArg Text.skipBlank behindStart)
    fun _ _ _ parts => parts
  obtain ⟨step, behindStep⟩ := (finds_step formed white).unique
    (finds_step otherFormed otherWhite) behindOperator fun _ _ _ parts => parts
  obtain ⟨mode, behindMode⟩ := (finds_mode formed white).unique
    (finds_mode otherFormed otherWhite) behindStep fun _ _ => eq_of_mode_text
  obtain ⟨pad, behindPad⟩ := (finds_pad formed white).unique
    (finds_pad otherFormed otherWhite) behindMode fun _ _ => eq_of_pad_text
  obtain ⟨repeats, behindRepeats⟩ := (finds_repeats formed white).unique
    (finds_repeats otherFormed otherWhite) behindPad fun _ _ => eq_of_repeats_text
  have flags : spelling.flags = other.flags := by
    have found := (scanFlags white.flags formed.flags white.last).1
    have again := (scanFlags otherWhite.flags otherFormed.flags otherWhite.last).1
    rw [← found, ← again]
    exact congrArg (List.takeWhile isFlag) behindRepeats
  obtain ⟨⟩ := spelling
  obtain ⟨⟩ := other
  subst start operator step mode pad repeats flags
  rfl

end Formed

end Numbering.Spelling
