import Numbering.Proofs.Expression.Opening

/-! # The scanner on laid out parts

Each scanner takes its part off the front of a text, given that what follows opens with a lower
rank. A layout keeps that order, so the scanners put together find the parts of every layout whose
start cannot go on (`scan?_layout`).
-/

namespace Numbering.Expression

open Character Parts

/-! ## Typed parts open with their rank -/

theorem opens_operator (operator : OperatorPart) : Opens 6 operator.text := by
  cases operator <;> exact ⟨_, _, rfl, by decide⟩

theorem opens_digits {digits : Text} (formed : digits.IsDigits) : Opens 5 digits := by
  obtain ⟨some, all⟩ := formed
  cases digits with
  | nil => exact absurd rfl some
  | cons c rest => exact ⟨c, rest, rfl, rank_of_isDigit (all c (by simp))⟩

theorem opens_mode {mode : ModeSpelling} (formed : mode.WellFormed) : Opens 4 mode.text := by
  cases mode with
  | radix digits => exact ⟨_, _, rfl, by decide⟩
  | marker letter =>
    refine ⟨letter, [], rfl, ?_⟩
    rcases formed with rfl | rfl <;> decide

theorem opens_pad (pad : PadSpelling) : Opens 3 pad.text := by
  rcases pad with ⟨_ | _ | c, width⟩ <;> exact ⟨_, _, rfl, by decide⟩

theorem opens_repeats {repeats : RepeatSpelling} (formed : repeats.WellFormed) (blank : Text) :
    Opens 2 (repeats.text blank) := by
  refine ⟨repeats.mark, _, rfl, ?_⟩
  rcases formed.1 with same | same <;> rw [same] <;> decide

/-! ## Behind a part that may be absent -/

/-- What a scanner leaves behind a part: if there is none, the white space in front of it has been
skipped. -/
def left {α : Type} (part : Option α) (rest : Text) : Text :=
  if part.isNone then Text.skipBlank rest else rest

theorem skipBlank_left {α : Type} (part : Option α) (rest : Text) :
    Text.skipBlank (left part rest) = Text.skipBlank rest := by
  cases part with
  | none => exact skipBlank_skipBlank rest
  | some _ => rfl

section Optional
variable {α : Type} {level : Nat} {text : α → Text} {part : Option α} {blank rest : Text}

theorem skipBlank_typed (opens : ∀ value ∈ part, Opens (level + 1) (text value)) (rest : Text) :
    Text.skipBlank (typed text part ++ rest) = typed text part ++ left part rest := by
  cases part with
  | none => rfl
  | some value => exact skipBlank_of_opens (opens value rfl) rest

theorem skipBlank_append_typed (white : blank.IsBlank)
    (opens : ∀ value ∈ part, Opens (level + 1) (text value)) (rest : Text) :
    Text.skipBlank (blank ++ (typed text part ++ rest)) = typed text part ++ left part rest := by
  rw [skipBlank_append white, skipBlank_typed opens]

theorem opensBelow_typed (opens : ∀ value ∈ part, Opens (level + 1) (text value))
    (low : OpensBelow (level + 1) rest) : OpensBelow (level + 2) (typed text part ++ rest) := by
  cases part with
  | none => exact fun c first => Nat.lt_succ_of_lt (low c first)
  | some value => exact (opens value rfl).opensBelow (skipBlank_of_opens (opens value rfl) rest)

theorem opensBelow_append (white : blank.IsBlank) (low : OpensBelow level rest) :
    OpensBelow level (blank ++ rest) := by
  intro c first
  rw [skipBlank_append white] at first
  exact low c first

theorem head_left (low : OpensBelow (level + 1) rest) (part : Option α) :
    ∀ c ∈ (left part rest).head?, rank c < level + 1 := by
  cases part with
  | none =>
    intro c first
    exact low c first
  | some _ => exact low.head

end Optional

/-! ## One scanner at a time -/

theorem takeWhile_append {property : Char → Bool} {run rest : Text}
    (inside : ∀ c ∈ run, property c = true) (stop : ∀ c ∈ rest.head?, property c = false) :
    (run ++ rest).takeWhile property = run := by
  rw [List.takeWhile_append_of_pos inside]
  cases rest with
  | nil => simp
  | cons c tail => rw [List.takeWhile_cons_of_neg (by simp [stop c rfl]), List.append_nil]

theorem dropWhile_append {property : Char → Bool} {run rest : Text}
    (inside : ∀ c ∈ run, property c = true) (stop : ∀ c ∈ rest.head?, property c = false) :
    (run ++ rest).dropWhile property = rest := by
  rw [List.dropWhile_append_of_pos inside]
  cases rest with
  | nil => rfl
  | cons c tail => rw [List.dropWhile_cons_of_neg (by simp [stop c rfl])]

theorem scanDigits?_append {digits rest : Text} (formed : digits.IsDigits)
    (stop : ∀ c ∈ rest.head?, c.isDigit = false) :
    scanDigits? (digits ++ rest) = some (digits, rest) := by
  obtain ⟨some, all⟩ := formed
  rw [scanDigits?, Numeral.spanDigits, takeWhile_append all stop, dropWhile_append all stop]
  cases digits with
  | nil => exact absurd rfl some
  | cons _ _ => rfl

theorem scanDigits?_eq_none {text : Text} (stop : ∀ c ∈ text.head?, c.isDigit = false) :
    scanDigits? text = none := by
  have inside : ∀ c ∈ ([] : Text), c.isDigit = true := by simp
  have empty : text.takeWhile Char.isDigit = [] := takeWhile_append inside stop
  rw [scanDigits?, Numeral.spanDigits, empty]

theorem isDigit_of_low {level : Nat} {rest : Text} (small : level ≤ 5)
    (low : ∀ c ∈ rest.head?, rank c < level) : ∀ c ∈ rest.head?, c.isDigit = false := by
  intro c first
  have := low c first
  exact isDigit_of_rank_ne (by omega)

theorem ne_of_low {level : Nat} {rest : Text} (low : ∀ c ∈ rest.head?, rank c < level) {mark : Char}
    (high : level ≤ rank mark) (tail : Text) : rest ≠ mark :: tail := by
  rintro rfl
  have := low mark rfl
  omega

theorem scanOperator_typed (operator : Option OperatorPart) {rest : Text}
    (low : ∀ c ∈ rest.head?, rank c < 6) :
    scanOperator (typed OperatorPart.text operator ++ rest) = (operator, rest) := by
  have noPlus : ∀ tail, rest ≠ '+' :: tail := ne_of_low low (by decide)
  have noMinus : ∀ tail, rest ≠ '-' :: tail := ne_of_low low (by decide)
  rcases operator with _ | (_ | _ | _ | _)
  · change scanOperator rest = _
    unfold scanOperator
    split <;> simp_all
  · rfl
  · rfl
  · change scanOperator ('+' :: rest) = _
    unfold scanOperator
    split <;> simp_all
  · change scanOperator ('-' :: rest) = _
    unfold scanOperator
    split <;> simp_all

theorem scanOptionalDigits_typed {step : Option Text}
    (formed : ∀ digits ∈ step, Text.IsDigits digits) {rest : Text}
    (low : ∀ c ∈ rest.head?, rank c < 5) :
    scanOptionalDigits (typed id step ++ rest) = (step, rest) := by
  have stop := isDigit_of_low (by omega) low
  cases step with
  | none => simp [scanOptionalDigits, typed, scanDigits?_eq_none stop]
  | some digits =>
    simp [scanOptionalDigits, typed, scanDigits?_append (formed digits rfl) stop]

theorem scanMode_typed {mode : Option ModeSpelling} (formed : ∀ value ∈ mode, value.WellFormed)
    {rest : Text} (low : ∀ c ∈ rest.head?, rank c < 4) :
    scanMode (typed ModeSpelling.text mode ++ rest) = (mode.map ModeSpelling.part, rest) := by
  rcases mode with _ | (digits | letter)
  · have noHash : ∀ tail, rest ≠ '#' :: tail := ne_of_low low (by decide)
    have noSmall : ∀ tail, rest ≠ 'a' :: tail := ne_of_low low (by decide)
    have noLarge : ∀ tail, rest ≠ 'A' :: tail := ne_of_low low (by decide)
    change scanMode rest = _
    unfold scanMode
    split <;> simp_all
  · have found := scanDigits?_append (formed _ rfl) (isDigit_of_low (by omega) low)
    change scanMode ('#' :: (digits ++ rest)) = _
    simp only [scanMode, found]
    rfl
  · rcases formed _ rfl with rfl | rfl <;> rfl

theorem scanFill_append (pad : PadSpelling) (formed : pad.WellFormed) {rest : Text}
    (low : ∀ c ∈ rest.head?, rank c < 3) :
    ∃ body, pad.text ++ rest = ':' :: body ∧
      scanFill body = (pad.fill.join, pad.width ++ rest) := by
  obtain ⟨fill, width⟩ := pad
  obtain ⟨other, some, all⟩ := formed
  rcases fill with _ | _ | c
  · refine ⟨width ++ rest, rfl, ?_⟩
    have noClose : ∀ tail, rest ≠ '>' :: tail := ne_of_low low (by decide)
    cases width with
    | nil => exact absurd rfl some
    | cons d tail =>
      have digit := all d (by simp)
      have first : d ≠ '>' := by rintro rfl; simp at digit
      have second : ∀ after, tail ++ rest ≠ '>' :: after := by
        cases tail with
        | nil => exact noClose
        | cons e more =>
          rintro after same
          obtain rfl : e = '>' := (List.cons.inj same).1
          have close : '>'.isDigit = true := all '>' (by simp)
          simp at close
      change scanFill (d :: (tail ++ rest)) = (none, d :: (tail ++ rest))
      unfold scanFill
      split <;> simp_all
  · exact ⟨'>' :: (width ++ rest), rfl, rfl⟩
  · refine ⟨c :: '>' :: (width ++ rest), rfl, ?_⟩
    have : c ≠ '>' := by rintro rfl; exact other rfl
    unfold scanFill
    split <;> simp_all

theorem scanPad_typed {pad : Option PadSpelling} (formed : ∀ value ∈ pad, value.WellFormed)
    {rest : Text} (low : ∀ c ∈ rest.head?, rank c < 3) :
    scanPad (typed PadSpelling.text pad ++ rest) = (pad.map PadSpelling.part, rest) := by
  cases pad with
  | none =>
    have noColon : ∀ tail, rest ≠ ':' :: tail := ne_of_low low (by decide)
    change scanPad rest = _
    unfold scanPad
    split <;> simp_all
  | some pad =>
    obtain ⟨body, same, filled⟩ := scanFill_append pad (formed pad rfl) low
    have found := scanDigits?_append (formed pad rfl).2 (isDigit_of_low (by omega) low)
    change scanPad (pad.text ++ rest) = _
    rw [same]
    simp only [scanPad, filled, found]
    rfl

theorem scanRepeats_typed {blank : Text} (white : blank.IsBlank) {repeats : Option RepeatSpelling}
    (formed : ∀ value ∈ repeats, value.WellFormed) {rest : Text}
    (low : ∀ c ∈ rest.head?, rank c < 2) :
    scanRepeats (typed (RepeatSpelling.text blank) repeats ++ rest) =
      (repeats.map RepeatSpelling.digits, rest) := by
  rcases repeats with _ | ⟨mark, digits⟩
  · have noSlash : ∀ tail, rest ≠ '/' :: tail := ne_of_low low (by decide)
    have noCaret : ∀ tail, rest ≠ '^' :: tail := ne_of_low low (by decide)
    change scanRepeats rest = _
    unfold scanRepeats
    split <;> simp_all
  · obtain ⟨marked, written⟩ := formed _ rfl
    have found := scanDigits?_append written (isDigit_of_low (by omega) low)
    have count : scanCount mark (blank ++ digits ++ rest) = (some digits, rest) := by
      rw [scanCount, List.append_assoc, skipBlank_append white,
        skipBlank_of_opens (opens_digits written), found]
    change scanRepeats (mark :: (blank ++ digits ++ rest)) = _
    rcases marked with rfl | rfl <;> exact count

/-- What follows a start does not begin with a character that the start could go on with. -/
def StartPart.Ends (start : StartPart) (rest : Text) : Prop :=
  match start with
  | .numeral _ _ => ∀ c ∈ rest.head?, c.isDigit = false
  | .word _ => ∀ c ∈ rest.head?, isWordLetter c = false

theorem scanNumeral?_append {sign : Option Char} (signed : ∀ c ∈ sign, c = '+' ∨ c = '-')
    {digits : Text} (formed : digits.IsDigits) {rest : Text}
    (stop : ∀ c ∈ rest.head?, c.isDigit = false) :
    scanNumeral? (sign.toList ++ digits ++ rest) = some (.numeral sign digits, rest) := by
  have found := scanDigits?_append formed stop
  cases sign with
  | none =>
    obtain ⟨d, tail, rfl, ranked⟩ := opens_digits formed
    have noPlus : d ≠ '+' := by rintro rfl; simp +decide at ranked
    have noMinus : d ≠ '-' := by rintro rfl; simp +decide at ranked
    change scanNumeral? (d :: tail ++ rest) = _
    unfold scanNumeral?
    split <;> simp_all
  | some c =>
    rcases signed c rfl with rfl | rfl
    · change (scanDigits? (digits ++ rest)).map _ = _
      rw [found]
      rfl
    · change (scanDigits? (digits ++ rest)).map _ = _
      rw [found]
      rfl

theorem scanNumeral?_eq_none {c : Char} (letter : isWordLetter c = true) (rest : Text) :
    scanNumeral? (c :: rest) = none := by
  have ranked := four_le_rank_of_isWordLetter letter
  have noPlus : c ≠ '+' := by rintro rfl; simp +decide at ranked
  have noMinus : c ≠ '-' := by rintro rfl; simp +decide at ranked
  have noDigit : scanDigits? (c :: rest) = none :=
    scanDigits?_eq_none (by simpa using isDigit_of_rank_ne ranked.2.1)
  unfold scanNumeral?
  split <;> simp_all

theorem scanStart?_append {start : StartPart} (formed : start.WellFormed) {rest : Text}
    (ends : StartPart.Ends start rest) :
    scanStart? (start.text ++ rest) = some (start, rest) := by
  cases start with
  | numeral sign digits =>
    rw [scanStart?, StartPart.text, scanNumeral?_append formed.1 formed.2 ends]
    rfl
  | word letters =>
    obtain ⟨nonempty, all⟩ := formed
    have run : scanWord? (letters ++ rest) = some (.word letters, rest) := by
      rw [scanWord?, takeWhile_append all ends, dropWhile_append all ends]
      cases letters with
      | nil => exact absurd rfl nonempty
      | cons _ _ => rfl
    cases letters with
    | nil => exact absurd rfl nonempty
    | cons c tail =>
      rw [scanStart?, StartPart.text, run, List.cons_append,
        scanNumeral?_eq_none (all c (by simp))]
      rfl

end Numbering.Expression
