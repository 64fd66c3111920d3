import Numbering.Proofs.Expression.Longest
import Numbering.Proofs.Expression.Search
import Numbering.Proofs.Expression.Sound

/-! # Written expressions as a pattern

The pattern of an expression is one piece after another, each with white space in front of it and
most of them optional, and it has to take the whole text. Its ways that do are the layouts of the
text (`mem_expression_iff`). Ways with a longer start come first, and with one start there is no
more than one set of parts, so the first way that takes the whole text has the parts that the scanner
finds, which never tries a second way (`firstMatch?_eq_scan?`).
-/

namespace Numbering.Pattern

open Search Expression

def blank : Search Text :=
  run Character.isWhiteSpace

def digits : Search Text :=
  filledRun Char.isDigit

def numeral : Search StartPart := do
  let sign ← maybe (one fun c => c == '+' || c == '-')
  let number ← digits
  return .numeral sign number

def word : Search StartPart := do
  let letters ← filledRun Character.isWordLetter
  return .word letters

/-- An operator, the doubled ones first. -/
def operator : Search OperatorPart :=
  either (literal ['+', '+'] .plusPlus) <| either (literal ['-', '-'] .minusMinus) <|
    either (literal ['+'] .plus) (literal ['-'] .minus)

def mode : Search ModePart :=
  either
    (do
      let _ ← one (· == '#')
      let radix ← digits
      return .radix radix)
    (do
      let _ ← one fun c => c == 'a' || c == 'A'
      return .marker)

/-- A fill of at most one character that is closed by `>`. -/
def closedFill : Search (Option Char) := do
  let fill ← maybe (one (· != '>'))
  let _ ← one (· == '>')
  return fill

def pad : Search PadPart := do
  let _ ← one (· == ':')
  let fill ← maybe closedFill
  let width ← digits
  return ⟨fill.join, width⟩

def repeats : Search Text := do
  let _ ← one fun c => c == '/' || c == '^'
  let _ ← blank
  digits

def behind (start : StartPart) : Search Parts := do
  let _ ← blank
  let operator ← maybe operator
  let _ ← blank
  let step ← maybe digits
  let _ ← blank
  let mode ← maybe mode
  let pad ← maybe pad
  let _ ← blank
  let repeats ← maybe repeats
  let _ ← blank
  let flags ← maybe (filledRun Parts.isFlag)
  let _ ← blank
  return ⟨start, operator, step, mode, pad, repeats, flags.getD []⟩

def expression : Search Parts := do
  let _ ← blank
  let start ← either numeral word
  behind start

/-- The ways of the pattern that take the whole text. -/
def fullWays (text : Text) : List (Parts × Text) :=
  (expression text).filter fun (_, rest) => rest.isEmpty

/-- The first way of the pattern that takes the whole text. -/
def firstMatch? (text : Text) : Option Parts :=
  (fullWays text).head?.map Prod.fst

/-! ## The ways of each piece -/

/-- The ways of a search are the values of spellings that are typed at the front of the text. -/
def Reads {α β : Type} (search : Search β) (formed : α → Prop) (part : α → β)
    (typing : α → Text) : Prop :=
  ∀ value text rest, (value, rest) ∈ search text ↔
    ∃ spelled, formed spelled ∧ part spelled = value ∧ text = typing spelled ++ rest

theorem Reads.maybe {α β : Type} {search : Search β} {formed : α → Prop} {part : α → β}
    {typing : α → Text} (reads : Reads search formed part typing) :
    Reads (maybe search) (fun spelled => ∀ value ∈ spelled, formed value) (Option.map part)
      (typed typing) := by
  intro value text rest
  rw [mem_maybe]
  constructor
  · rintro (⟨found, member, rfl⟩ | ⟨rfl, rfl⟩)
    · obtain ⟨spelled, whole, rfl, rfl⟩ := (reads ..).mp member
      exact ⟨some spelled, by simpa using whole, rfl, rfl⟩
    · exact ⟨none, by simp, rfl, rfl⟩
  · rintro ⟨spelled, whole, rfl, rfl⟩
    cases spelled with
    | none => exact .inr ⟨rfl, rfl⟩
    | some found => exact .inl ⟨_, (reads ..).mpr ⟨found, whole found rfl, rfl, rfl⟩, rfl⟩

theorem reads_blank : Reads blank Text.IsBlank id id := by
  intro white text rest
  rw [blank, mem_run]
  constructor
  · rintro ⟨same, all⟩
    exact ⟨white, all, rfl, same⟩
  · rintro ⟨_, all, rfl, same⟩
    exact ⟨same, all⟩

theorem reads_digits : Reads digits Text.IsDigits id id := by
  intro number text rest
  rw [digits, mem_filledRun]
  constructor
  · rintro ⟨same, all⟩
    exact ⟨number, all, rfl, same⟩
  · rintro ⟨_, all, rfl, same⟩
    exact ⟨same, all⟩

theorem mem_numeral {start : StartPart} {text rest : Text} :
    (start, rest) ∈ numeral text ↔ ∃ sign number, start = .numeral sign number ∧
      start.WellFormed ∧ text = start.text ++ rest := by
  simp only [numeral, mem_bind, mem_maybe_one, reads_digits _, mem_pure]
  constructor
  · rintro ⟨sign, _, ⟨rfl, signed⟩, _, _, ⟨number, formed, rfl, rfl⟩, rfl, rfl⟩
    refine ⟨sign, number, rfl, ⟨fun c given => ?_, formed⟩, by simp [StartPart.text]⟩
    simpa using signed c given
  · rintro ⟨sign, number, rfl, ⟨signed, formed⟩, rfl⟩
    refine ⟨sign, number ++ rest, ⟨by simp [StartPart.text], fun c given => ?_⟩, number, rest,
      ⟨number, formed, rfl, rfl⟩, rfl, rfl⟩
    simpa using signed c given

theorem mem_word {start : StartPart} {text rest : Text} :
    (start, rest) ∈ word text ↔ ∃ letters, start = .word letters ∧
      start.WellFormed ∧ text = start.text ++ rest := by
  simp only [word, mem_bind, mem_filledRun, mem_pure]
  constructor
  · rintro ⟨letters, _, ⟨rfl, formed⟩, rfl, rfl⟩
    exact ⟨letters, rfl, formed, rfl⟩
  · rintro ⟨letters, rfl, formed, rfl⟩
    exact ⟨letters, rest, ⟨rfl, formed⟩, rfl, rfl⟩

theorem reads_start : Reads (either numeral word) StartPart.WellFormed id StartPart.text := by
  intro start text rest
  rw [mem_either, mem_numeral, mem_word]
  constructor
  · rintro (⟨_, _, -, formed, same⟩ | ⟨_, -, formed, same⟩)
    · exact ⟨start, formed, rfl, same⟩
    · exact ⟨start, formed, rfl, same⟩
  · rintro ⟨spelled, formed, rfl, same⟩
    cases spelled with
    | numeral sign number => exact .inl ⟨sign, number, rfl, formed, same⟩
    | word letters => exact .inr ⟨letters, rfl, formed, same⟩

theorem reads_operator : Reads operator (fun _ => True) id OperatorPart.text := by
  intro value text rest
  simp only [operator, mem_either, mem_literal]
  constructor
  · rintro (⟨rfl, same⟩ | ⟨rfl, same⟩ | ⟨rfl, same⟩ | ⟨rfl, same⟩)
    all_goals exact ⟨_, trivial, rfl, same⟩
  · rintro ⟨spelled, -, rfl, same⟩
    cases spelled with
    | plusPlus => exact .inl ⟨rfl, same⟩
    | minusMinus => exact .inr (.inl ⟨rfl, same⟩)
    | plus => exact .inr (.inr (.inl ⟨rfl, same⟩))
    | minus => exact .inr (.inr (.inr ⟨rfl, same⟩))

theorem reads_mode : Reads mode ModeSpelling.WellFormed ModeSpelling.part ModeSpelling.text := by
  intro value text rest
  simp only [mode, mem_either, mem_bind, mem_one, reads_digits _, mem_pure]
  constructor
  · rintro (⟨c, _, ⟨rfl, hash⟩, _, _, ⟨number, formed, rfl, rfl⟩, rfl, rfl⟩ |
      ⟨c, _, ⟨rfl, marked⟩, rfl, rfl⟩)
    · obtain rfl : c = '#' := by simpa using hash
      exact ⟨.radix number, formed, rfl, rfl⟩
    · exact ⟨.marker c, by simpa [ModeSpelling.WellFormed] using marked, rfl, rfl⟩
  · rintro ⟨spelled, formed, rfl, rfl⟩
    cases spelled with
    | radix number =>
      exact .inl ⟨'#', _, ⟨rfl, rfl⟩, number, rest, ⟨number, formed, rfl, rfl⟩, rfl, rfl⟩
    | marker c =>
      exact .inr ⟨c, rest, ⟨rfl, by simpa [ModeSpelling.WellFormed] using formed⟩, rfl, rfl⟩

theorem reads_repeats :
    Reads repeats (fun spelled : RepeatSpelling × Text => spelled.1.WellFormed ∧ spelled.2.IsBlank)
      (fun spelled => spelled.1.digits) (fun spelled => spelled.1.text spelled.2) := by
  intro value text rest
  simp only [repeats, mem_bind, mem_one, reads_blank _, reads_digits _]
  constructor
  · rintro ⟨c, _, ⟨rfl, marked⟩, _, _, ⟨white, blank, rfl, rfl⟩, number, formed, rfl, rfl⟩
    refine ⟨(⟨c, number⟩, white), ⟨⟨by simpa using marked, formed⟩, blank⟩, rfl, ?_⟩
    simp [RepeatSpelling.text]
  · rintro ⟨⟨⟨c, number⟩, white⟩, ⟨⟨marked, formed⟩, blank⟩, rfl, rfl⟩
    refine ⟨c, _, ⟨rfl, by simpa using marked⟩, white, number ++ rest, ⟨white, blank, rfl, ?_⟩,
      number, formed, rfl, rfl⟩
    simp

theorem reads_closedFill :
    Reads closedFill (fun fill => fill ≠ some '>') id (fun fill => fill.toList ++ ['>']) := by
  intro fill text rest
  simp only [closedFill, mem_bind, mem_maybe_one, mem_one, mem_pure]
  constructor
  · rintro ⟨fill, _, ⟨rfl, other⟩, c, _, ⟨rfl, close⟩, rfl, rfl⟩
    obtain rfl : c = '>' := by simpa using close
    refine ⟨fill, ?_, rfl, by simp⟩
    rintro rfl
    simpa using other '>' rfl
  · rintro ⟨spelled, other, rfl, rfl⟩
    refine ⟨spelled, '>' :: rest, ⟨by simp, ?_⟩, '>', rest, ⟨rfl, rfl⟩, rfl, rfl⟩
    rintro c rfl
    simpa using other

theorem pad_text_eq (pad : PadSpelling) :
    pad.text = ':' :: (typed (fun fill => fill.toList ++ ['>']) pad.fill ++ pad.width) := by
  rcases pad with ⟨_ | _ | c, width⟩ <;> rfl

theorem reads_pad : Reads pad PadSpelling.WellFormed PadSpelling.part PadSpelling.text := by
  intro value text rest
  simp only [pad, mem_bind, mem_one, reads_closedFill.maybe _, reads_digits _, mem_pure,
    pad_text_eq]
  constructor
  · rintro ⟨c, _, ⟨rfl, colon⟩, _, _, ⟨fill, closed, rfl, rfl⟩, _, _, ⟨width, formed, rfl, rfl⟩,
      rfl, rfl⟩
    obtain rfl : c = ':' := by simpa using colon
    refine ⟨⟨fill, width⟩, ⟨?_, formed⟩, by simp [PadSpelling.part], by simp⟩
    rintro rfl
    exact closed _ rfl rfl
  · rintro ⟨⟨fill, width⟩, ⟨closed, formed⟩, rfl, rfl⟩
    refine ⟨':', _, ⟨rfl, rfl⟩, fill, width ++ rest, ⟨fill, ?_, by simp, by simp⟩, width, rest,
      ⟨width, formed, rfl, rfl⟩, rfl, rfl⟩
    rintro _ rfl same
    exact closed (congrArg some same)

theorem reads_flags :
    Reads (filledRun Parts.isFlag) (fun flags => flags ≠ [] ∧ ∀ c ∈ flags, c = '!' ∨ c = '@')
      id id := by
  intro flags text rest
  rw [mem_filledRun]
  simp only [Parts.isFlag, Bool.or_eq_true, beq_iff_eq]
  constructor
  · rintro ⟨same, all⟩
    exact ⟨flags, all, rfl, same⟩
  · rintro ⟨_, all, rfl, same⟩
    exact ⟨same, all⟩

/-! ## The ways of the pattern -/

/-- A repeat with the white space behind its mark. -/
theorem typed_repeats (spelled : Option (RepeatSpelling × Text)) :
    typed (fun repeats => repeats.1.text repeats.2) spelled =
      typed (RepeatSpelling.text ((spelled.map Prod.snd).getD [])) (spelled.map Prod.fst) := by
  cases spelled <;> rfl

theorem typed_repeats_map (count : Text) (spelled : Option RepeatSpelling) :
    typed (fun repeats => repeats.1.text repeats.2) (spelled.map fun repeats => (repeats, count)) =
      typed (RepeatSpelling.text count) spelled := by
  cases spelled <;> rfl

/-- The flags of a spelling, of which there may be none. -/
def flags? (flags : Text) : Option Text :=
  if flags = [] then none else some flags

theorem getD_flags? (flags : Text) : (flags? flags).getD [] = flags := by
  unfold flags?
  split
  · rename_i empty
    exact empty.symm
  · rfl

theorem typed_flags? (flags : Text) : typed id (flags? flags) = flags := by
  unfold flags?
  split
  · rename_i empty
    exact empty.symm
  · rfl

theorem mem_flags? {flags value : Text} (given : value ∈ flags? flags) :
    value ≠ [] ∧ value = flags := by
  unfold flags? at given
  split at given
  · simp at given
  · rename_i filled
    obtain rfl : flags = value := by simpa using given
    exact ⟨filled, rfl⟩

/-- The ways to take everything behind a start. -/
theorem mem_behind {start : StartPart} (whole : start.WellFormed) {parts : Parts} {text : Text} :
    (parts, []) ∈ behind start text ↔ ∃ (spelling : Spelling) (blanks : Blanks),
      spelling.start = start ∧ spelling.WellFormed ∧ blanks.WellFormed ∧
        spelling.parts = parts ∧ text = spelling.behindStart blanks := by
  simp only [behind, mem_bind, reads_blank _, reads_operator.maybe _, reads_digits.maybe _,
    reads_mode.maybe _, reads_pad.maybe _, reads_repeats.maybe _, reads_flags.maybe _, mem_pure]
  constructor
  · rintro ⟨_, _, ⟨before, beforeWhite, rfl, rfl⟩, _, _, ⟨operator, -, rfl, rfl⟩,
      _, _, ⟨gap, gapWhite, rfl, rfl⟩, _, _, ⟨step, stepFormed, rfl, rfl⟩,
      _, _, ⟨space, spaceWhite, rfl, rfl⟩, _, _, ⟨mode, modeFormed, rfl, rfl⟩,
      _, _, ⟨pad, padFormed, rfl, rfl⟩, _, _, ⟨room, roomWhite, rfl, rfl⟩,
      _, _, ⟨repeats, repeatsFormed, rfl, rfl⟩, _, _, ⟨last, lastWhite, rfl, rfl⟩,
      _, _, ⟨flags, flagsFormed, rfl, rfl⟩, _, _, ⟨trailing, trailingWhite, rfl, rfl⟩, rfl, rfl⟩
    refine ⟨⟨start, operator, step, mode, pad, repeats.map Prod.fst, flags.getD []⟩,
      ⟨[], before, gap, space, room, (repeats.map Prod.snd).getD [], last, trailing⟩, rfl,
      ⟨whole, stepFormed, modeFormed, padFormed, ?_, ?_⟩,
      ⟨Text.isBlank_nil, beforeWhite, gapWhite, spaceWhite, roomWhite, ?_, lastWhite,
        trailingWhite⟩, ?_, ?_⟩
    · rintro value given
      obtain ⟨both, here, rfl⟩ := Option.map_eq_some_iff.mp given
      exact (repeatsFormed both here).1
    · cases flags with
      | none => simp
      | some flags => exact (flagsFormed flags rfl).2
    · cases repeats with
      | none => exact Text.isBlank_nil
      | some both => exact (repeatsFormed both rfl).2
    · cases repeats <;> simp [Spelling.parts]
    · rw [typed_repeats]
      cases flags <;>
        simp [Spelling.behindStart, Spelling.behindOperator, Spelling.behindStep,
          Spelling.behindMode, Spelling.behindPad, Spelling.behindRepeats, typed]
  · rintro ⟨spelling, blanks, rfl, formed, white, rfl, rfl⟩
    have repeatsTyped := typed_repeats_map blanks.count spelling.repeats
    have flagsTyped := typed_flags? spelling.flags
    refine ⟨_, _, ⟨blanks.operator, white.operator, rfl, rfl⟩,
      _, _, ⟨spelling.operator, by simp, rfl, rfl⟩, _, _, ⟨blanks.step, white.step, rfl, rfl⟩,
      _, _, ⟨spelling.step, formed.step, rfl, rfl⟩, _, _, ⟨blanks.mode, white.mode, rfl, rfl⟩,
      _, _, ⟨spelling.mode, formed.mode, rfl, rfl⟩, _, _, ⟨spelling.pad, formed.pad, rfl, rfl⟩,
      _, _, ⟨blanks.repeats, white.repeats, rfl, rfl⟩,
      _, spelling.behindRepeats blanks,
      ⟨spelling.repeats.map fun repeats => (repeats, blanks.count), ?_, rfl,
        by rw [repeatsTyped]⟩,
      _, _, ⟨blanks.flags, white.flags, rfl, rfl⟩,
      _, blanks.last, ⟨flags? spelling.flags, ?_, rfl, by rw [flagsTyped]⟩,
      _, [], ⟨blanks.last, white.last, rfl, (List.append_nil _).symm⟩, ?_, rfl⟩
    · intro value given
      obtain ⟨repeats, here, rfl⟩ := Option.map_eq_some_iff.mp given
      exact ⟨formed.repeats repeats here, white.count⟩
    · intro value given
      obtain ⟨filled, rfl⟩ := mem_flags? given
      exact ⟨filled, formed.flags⟩
    · simp [Spelling.parts, getD_flags?, Function.comp_def]

/-- The ways of the pattern that take the whole text are the layouts of the text. -/
theorem mem_expression_iff {parts : Parts} {text : Text} :
    (parts, []) ∈ expression text ↔
      ∃ spelling : Spelling, spelling.Writes text ∧ spelling.parts = parts := by
  simp only [expression, mem_bind, reads_blank _, reads_start _]
  constructor
  · rintro ⟨_, _, ⟨first, firstWhite, rfl, rfl⟩, _, rest, ⟨start, whole, rfl, rfl⟩, found⟩
    obtain ⟨spelling, blanks, rfl, formed, white, rfl, rfl⟩ := (mem_behind whole).mp found
    refine ⟨spelling, ⟨formed, { blanks with first := first }, ?_, ?_⟩, rfl⟩
    · exact { white with first := firstWhite }
    · exact (Spelling.layout_eq spelling { blanks with first := first }).symm
  · rintro ⟨spelling, ⟨formed, blanks, white, rfl⟩, rfl⟩
    refine ⟨_, _, ⟨blanks.first, white.first, rfl, Spelling.layout_eq spelling blanks⟩, _, _,
      ⟨spelling.start, formed.start, rfl, rfl⟩, ?_⟩
    exact (mem_behind formed.start).mpr ⟨spelling, blanks, rfl, formed, white, rfl, rfl⟩

/-! ## The order of the ways -/

theorem start_of_mem_behind {start : StartPart} {parts : Parts} {text rest : Text}
    (found : (parts, rest) ∈ behind start text) : parts.start = start := by
  simp only [behind, mem_bind, mem_pure] at found
  obtain ⟨_, _, -, _, _, -, _, _, -, _, _, -, _, _, -, _, _, -, _, _, -, _, _, -, _, _, -, _, _, -,
    _, _, -, _, _, -, rfl, -⟩ := found
  rfl

/-- Of two ways the first one has a start at least as long. -/
def Longer (first second : Parts × Text) : Prop :=
  second.1.start.text.length ≤ first.1.start.text.length

theorem pairwise_filledRun (property : Char → Bool) (text : Text) :
    (filledRun property text).Pairwise fun first second => second.1.length < first.1.length :=
  ((pairwise_cuts property text).filter _).imp And.left

/-- With a sign in front there is no way without one. -/
theorem pairwise_numeral (text : Text) :
    (numeral text).Pairwise fun first second =>
      second.1.text.length ≤ first.1.text.length := by
  refine pairwise_bind ?_ ?_
  · intro sign behind _
    refine pairwise_bind (fun _ _ _ => List.pairwise_singleton ..) ?_
    refine (pairwise_filledRun _ behind).imp ?_
    rintro ⟨earlier, _⟩ ⟨later, _⟩ shorter ⟨one, _⟩ first ⟨two, _⟩ second
    obtain ⟨rfl, -⟩ := mem_pure.mp first
    obtain ⟨rfl, -⟩ := mem_pure.mp second
    have fewer : later.length < earlier.length := shorter
    simp only [StartPart.text, List.length_append]
    omega
  · refine pairwise_maybe_one ?_
    rintro c rest rfl sign ⟨first, _⟩ - ⟨second, _⟩ unsigned
    obtain ⟨_, _, member, -⟩ := mem_bind.mp unsigned
    obtain ⟨number, formed, rfl, same⟩ := (reads_digits ..).mp member
    obtain ⟨d, tail, rfl, ranked⟩ := opens_digits formed
    obtain rfl : c = d := (List.cons.inj same).1
    simp only [Bool.or_eq_true, beq_iff_eq] at sign
    rcases sign with rfl | rfl <;> simp +decide at ranked

theorem pairwise_starts (text : Text) :
    (either numeral word text).Pairwise fun first second =>
      second.1.text.length ≤ first.1.text.length := by
  refine List.pairwise_append.mpr ⟨pairwise_numeral text, ?_, ?_⟩
  · refine pairwise_bind (fun _ _ _ => List.pairwise_singleton ..) ?_
    refine (pairwise_filledRun _ text).imp ?_
    rintro ⟨earlier, _⟩ ⟨later, _⟩ shorter ⟨one, _⟩ first ⟨two, _⟩ second
    obtain ⟨rfl, -⟩ := mem_pure.mp first
    obtain ⟨rfl, -⟩ := mem_pure.mp second
    exact Nat.le_of_lt shorter
  · rintro ⟨first, _⟩ isNumeral ⟨second, _⟩ isWord
    obtain ⟨sign, number, rfl, formed, same⟩ := mem_numeral.mp isNumeral
    obtain ⟨letters, rfl, formed', same'⟩ := mem_word.mp isWord
    obtain ⟨level, low, opens⟩ := Spelling.opens_numeral formed
    obtain ⟨other, high, opens'⟩ := Spelling.opens_word formed'
    have equal := opens.level_eq opens' (same.symm.trans same')
    omega

theorem pairwise_expression (text : Text) : (expression text).Pairwise Longer := by
  refine pairwise_bind ?_ ?_
  · intro white behind _
    refine pairwise_bind ?_ ?_
    · intro start rest _
      refine List.pairwise_of_forall_mem_list ?_
      rintro ⟨first, _⟩ one ⟨second, _⟩ two
      rw [Longer, start_of_mem_behind one, start_of_mem_behind two]
    · refine (pairwise_starts behind).imp ?_
      rintro ⟨start, _⟩ ⟨other, _⟩ longer ⟨first, _⟩ one ⟨second, _⟩ two
      rw [Longer, start_of_mem_behind one, start_of_mem_behind two]
      exact longer
  · -- a shorter run of white space leaves some in front, where no start begins
    refine (pairwise_cuts _ text).imp ?_
    rintro ⟨_, _⟩ ⟨_, left⟩ ⟨-, c, first, white⟩ _ _ ⟨second, _⟩ two
    obtain ⟨start, rest, member, -⟩ := mem_bind.mp two
    obtain ⟨spelled, formed, rfl, same⟩ := (reads_start ..).mp member
    obtain ⟨level, d, tail, typed, ranked⟩ := Spelling.opens_start formed
    have same : left = spelled.text ++ rest := same
    obtain rfl : d = c := by simpa [same, typed] using first
    rw [rank_eq_zero_iff.mpr white] at ranked
    omega

theorem mem_fullWays_iff {parts : Parts} {text rest : Text} :
    (parts, rest) ∈ fullWays text ↔
      rest = [] ∧ ∃ spelling : Spelling, spelling.Writes text ∧ spelling.parts = parts := by
  rw [fullWays, List.mem_filter, ← mem_expression_iff]
  simp only [List.isEmpty_iff]
  constructor
  · rintro ⟨member, rfl⟩
    exact ⟨rfl, member⟩
  · rintro ⟨rfl, member⟩
    exact ⟨member, rfl⟩

/-- The first way that takes the whole text has the parts that the scanner finds. -/
theorem firstMatch?_eq_scan? (text : Text) : firstMatch? text = Parts.scan? text := by
  have ordered : (fullWays text).Pairwise Longer := (pairwise_expression text).filter _
  rw [firstMatch?]
  cases ways : fullWays text with
  | nil =>
    cases found : Parts.scan? text with
    | none => rfl
    | some parts =>
      have layout := Parts.exists_writes_of_scan? found
      have member : (parts, []) ∈ fullWays text := mem_fullWays_iff.mpr ⟨rfl, layout⟩
      simp [ways] at member
  | cons first others =>
    obtain ⟨parts, rest⟩ := first
    have leads : (parts, rest) ∈ fullWays text := by simp [ways]
    obtain ⟨rfl, spelling, writes, rfl⟩ := mem_fullWays_iff.mp leads
    obtain ⟨reading, isReading⟩ := writes.exists_isReading
    have listed : (reading.parts, []) ∈ fullWays text :=
      mem_fullWays_iff.mpr ⟨rfl, reading, isReading.1, rfl⟩
    -- the reading is on the list too, so the first way has a start as long as the longest one
    have long : reading.start.text.length ≤ spelling.start.text.length := by
      rw [ways] at ordered listed
      rcases List.mem_cons.mp listed with same | later
      · have parts := congrArg (fun way : Parts × Text => way.1.start) same
        exact Nat.le_of_eq (congrArg (fun start => start.text.length) parts)
      · exact (List.pairwise_cons.mp ordered).1 _ later
    have short := isReading.2 spelling writes
    obtain rfl := isReading.eq_of_length writes (Nat.le_antisymm short long)
    rw [isReading.scan?]
    rfl

end Numbering.Pattern
