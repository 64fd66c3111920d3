import Numbering.Proofs.Expression.RoundTrip
import Numbering.Proofs.Expression.Word

/-! # Sequences resumed from one of their values

A word, an operator and a step write an alphabetic sequence. Its values are the words of numbers that
lie one step apart, in the case of the start. Over the letters `a` to `z` a value has the case of the
start it comes from, so the sequence that is written with a value in place of the start goes on from
there (`valueAt_stepped_add`).
-/

namespace Numbering.Expression

open Character
open Numeral (FitsLongWord)

variable {alphabet : Alphabet} {start word before behind : Text} {operator : Operator} {step : Nat}

/-- A word with an operator and a step, as they are written with white space between them. -/
def steppedText (word : Text) (operator : Operator) (step : Nat) (before behind : Text) : Text :=
  word ++ before ++ operator.mark :: behind ++ Numeral.decimal step

/-- The sequence that begins at a word and moves by a step. -/
def stepped (word : Text) (operator : Operator) (step : Nat) : Expression :=
  { ofStart (.alphabetic word) with operator := operator, step := step }

/-! ## Reading -/

theorem scan?_steppedText (filled : word ≠ []) (letters : ∀ c ∈ word, isWordLetter c = true)
    (operator : Operator) (step : Nat) (white : before.IsBlank) (white' : behind.IsBlank) :
    Parts.scan? (steppedText word operator step before behind) =
      some ⟨.word word, some operator.part, some (Numeral.decimal step), none, none, none, []⟩ := by
  let spelling : Spelling :=
    ⟨.word word, some operator.part, some (Numeral.decimal step), none, none, none, []⟩
  let blanks : Blanks := ⟨[], before, behind, [], [], [], [], []⟩
  have digits := Numeral.isDigits_decimal step
  have formed : spelling.WellFormed :=
    ⟨⟨filled, letters⟩, by simpa [spelling] using digits, by simp [spelling], by simp [spelling],
      by simp [spelling], by simp [spelling]⟩
  have empty := Text.isBlank_nil
  have blank : blanks.WellFormed := ⟨empty, white, white', empty, empty, empty, empty, empty⟩
  have laid : spelling.layout blanks = steppedText word operator step before behind := by
    simp [Spelling.layout, spelling, blanks, typed, StartPart.text, operator.text_part, steppedText]
  have ends : StartPart.Ends spelling.start (spelling.behindStart blanks) :=
    Spelling.ends_of_operator blank (by simp [spelling])
  rw [← laid]
  exact Spelling.scan?_layout formed blank ends

/-- A word of known letters with an operator and a step is read as the sequence that it writes. -/
theorem read_steppedText (filled : word ≠ []) (letters : ∀ c ∈ word, isWordLetter c = true)
    (known : ∀ c ∈ word, alphabet.contains c = true) (operator : Operator)
    (fits : step ≤ Numeral.maxWord) (white : before.IsBlank) (white' : behind.IsBlank) :
    read alphabet (steppedText word operator step before behind) =
      .ok (stepped word operator step) := by
  have start : Parts.readStart alphabet (.word word) = .ok (.alphabetic word) := by
    rw [Parts.readStart_eq, fault_word_eq_none_iff.mpr known]
    rfl
  have digits := Numeral.isDigits_decimal step
  have number : Parts.readOptional .step Numeral.maxWord (some (Numeral.decimal step)) =
      .ok (some step) := by
    rw [Parts.readOptional_eq _ _ (by simpa using digits), Option.map_some,
      Numeral.readDecimal_decimal, overflow_decimal_eq_none fits]
    rfl
  rw [read, scan?_steppedText filled letters operator step white white']
  change (Parts.readStart alphabet (.word word) >>= _) = _
  rw [start]
  change (Parts.readOptional .step Numeral.maxWord (some (Numeral.decimal step)) >>= _) = _
  rw [number]
  cases operator <;> rfl

/-! ## The value as a word of a number -/

theorem likeLast_nil (word : Text) : likeLast word [] = [] := by
  rw [likeLast]
  cases word.getLast? with
  | none => rfl
  | some last =>
    dsimp only
    split_ifs <;> rfl

/-- With room in the words, a value is the word of its number in the case of the start. -/
theorem valueAt_eq_wordOf {expression : Expression} {number : Int} {index : Nat}
    (alphabetic : expression.start = .alphabetic start) (unpadded : expression.width = 0)
    (counts : alphabet.Counts start number)
    (room : expression.distance index + alphabet.size ≤ 2 ^ 127) :
    expression.valueAt alphabet index =
      likeLast start
        (alphabet.wordOf (number + expression.distance index * expression.operator.sign)) := by
  have wide := alphabet.two_le_size
  have moved : expression.displacement? index =
      some (expression.distance index * expression.operator.sign) := by
    rw [displacement?_eq, if_pos (by omega)]
  have near : expression.distance index * expression.operator.sign + alphabet.size ≤
      (2 : Int) ^ 127 := by
    cases expression.operator <;> simp only [Operator.sign] <;> omega
  have advanced := Alphabet.advance_eq_wordOf counts (fitsLongWord_of_displacement? moved) near
  rw [valueAt, alphabetic]
  simp only [wordAt, moved]
  rw [advanced]
  split
  · rename_i empty
    rw [empty, likeLast_nil]
  · rw [unpadded, Text.padLeft_zero]

/-! ## Case over the letters `a` to `z` -/

theorem isWordLetter_of_isAlpha {c : Char} (letter : c.isAlpha = true) :
    isWordLetter c = true := by
  have all : asciiLetters.all isWordLetter = true := by decide
  exact List.all_eq_true.mp all c (mem_asciiLetters_of_isAlpha letter)

theorem contains_latin_of_isAlpha {c : Char} (letter : c.isAlpha = true) :
    Alphabet.latin.contains c = true := by
  have all : asciiLetters.all Alphabet.latin.contains = true := by decide
  exact List.all_eq_true.mp all c (mem_asciiLetters_of_isAlpha letter)

theorem cased_of_isAlpha {c : Char} (letter : c.isAlpha = true) :
    isUppercase c = true ∨ isUppercase c = false ∧ isLowercase c = true := by
  have all : asciiLetters.all (fun c => isUppercase c || !isUppercase c && isLowercase c) = true := by
    decide
  simpa using List.all_eq_true.mp all c (mem_asciiLetters_of_isAlpha letter)

/-- A small letter that is its own lowercase, with a single letter for a capital. -/
def Paired (letter : Char) : Prop :=
  (letter ≠ 'Σ' ∧ lowercase letter = [letter] ∧ letter.isAlpha = true ∧
      isUppercase letter = false ∧ isLowercase letter = true) ∧
    uppercase letter = [letter.toUpper] ∧ letter.toUpper.isAlpha = true ∧
      isUppercase letter.toUpper = true

instance (letter : Char) : Decidable (Paired letter) := by
  unfold Paired
  infer_instance

theorem paired_latin {letter : Char} (member : letter ∈ Alphabet.latin.letters) :
    Paired letter := by
  have all : Alphabet.latin.letters.all (decide <| Paired ·) = true := by decide
  exact of_decide_eq_true (List.all_eq_true.mp all letter member)

theorem toLowercase_of_owns (own : Alphabet.latin.Owns word) : Text.toLowercase word = word := by
  rw [Text.toLowercase]
  generalize ([] : Text) = before
  induction word generalizing before with
  | nil => rfl
  | cons letter rest ih =>
    obtain ⟨⟨other, same, -⟩, -⟩ := paired_latin (own letter List.mem_cons_self)
    rw [Text.lowercaseAfter_cons, Text.lowercaseAt, if_neg other, same,
      ih (fun letter member => own letter (List.mem_cons_of_mem _ member)), List.singleton_append]

theorem toUppercase_of_owns (own : Alphabet.latin.Owns word) :
    Text.toUppercase word = word.map Char.toUpper := by
  induction word with
  | nil => rfl
  | cons letter rest ih =>
    rw [Text.toUppercase_cons, (paired_latin (own letter List.mem_cons_self)).2.1,
      ih (fun letter member => own letter (List.mem_cons_of_mem _ member)), List.singleton_append,
      List.map_cons]

/-- The last letter of a start of letters has a case. -/
theorem exists_last_cased (filled : start ≠ []) (letters : ∀ c ∈ start, c.isAlpha = true) :
    ∃ last, start.getLast? = some last ∧
      (isUppercase last = true ∨ isUppercase last = false ∧ isLowercase last = true) := by
  obtain ⟨front, last, rfl⟩ := (List.eq_nil_or_concat start).resolve_left filled
  refine ⟨last, by simp, cased_of_isAlpha (letters last (by simp))⟩

/-- In the case of such a start a word consists of letters again, and hands that case on. -/
theorem likeLast_of_owns (filled : start ≠ []) (letters : ∀ c ∈ start, c.isAlpha = true)
    (own : Alphabet.latin.Owns word) (shown : word ≠ []) :
    (∀ c ∈ likeLast start word, c.isAlpha = true) ∧
      ∀ other, likeLast (likeLast start word) other = likeLast start other := by
  obtain ⟨last, ends, upper | ⟨upper, lower⟩⟩ := exists_last_cased filled letters
  · have like := likeLast_of_isUppercase ends upper
    rw [like, toUppercase_of_owns own]
    constructor
    · intro c member
      obtain ⟨letter, inside, rfl⟩ := List.mem_map.mp member
      exact (paired_latin (own letter inside)).2.2.1
    · intro other
      obtain ⟨front, letter, rfl⟩ := (List.eq_nil_or_concat word).resolve_left shown
      have capital := (paired_latin (own letter (by simp))).2.2.2
      rw [like, likeLast_of_isUppercase (by simp) capital]
  · have like := likeLast_of_isLowercase ends upper lower
    rw [like, toLowercase_of_owns own]
    constructor
    · intro c member
      exact (paired_latin (own c member)).1.2.2.1
    · intro other
      obtain ⟨front, letter, rfl⟩ := (List.eq_nil_or_concat word).resolve_left shown
      obtain ⟨-, -, -, capital, small⟩ := (paired_latin (own letter (by simp))).1
      rw [like, likeLast_of_isLowercase (by simp) capital small]

/-! ## Going on from a value -/

/-- A value keeps the letters of its word, so it counts what the word counts. -/
theorem counts_likeLast (own : Alphabet.latin.Owns word) {number : Int}
    (counts : Alphabet.latin.Counts word number) (start : Text) :
    Alphabet.latin.Counts (likeLast start word) number := by
  obtain ⟨places, found, sum⟩ := counts
  have keeps := (map_fold_likeLast_iff start word).mpr (keepsLetters_of_plain plain_latin own start)
  exact ⟨places, (Alphabet.places?_eq_some_iff found).mpr keeps, sum⟩

theorem distance_stepped_add (start word : Text) (operator : Operator) (step index further : Nat) :
    (stepped start operator step).distance (index + further) =
      (stepped start operator step).distance index +
        (stepped word operator step).distance further := by
  simp only [distance, stepped, ofStart, Nat.div_one, Nat.zero_add, Nat.add_mul]

theorem start_stepped (word : Text) (operator : Operator) (step : Nat) :
    (stepped word operator step).start = .alphabetic word :=
  rfl

/-- A value that is not empty can stand for the word: it consists of letters in the same case, and
counts as far as the index leads. -/
theorem likeLast_valueAt_stepped (filled : word ≠ []) (letters : ∀ c ∈ word, c.isAlpha = true)
    {index : Nat} {value : Text} (shows : (stepped word operator step).valueAt .latin index = value)
    (shown : value ≠ []) :
    (∀ c ∈ value, c.isAlpha = true) ∧ (∀ other, likeLast value other = likeLast word other) ∧
      ∀ number, Alphabet.latin.Counts word number →
        Alphabet.latin.Counts value
          (number + (stepped word operator step).distance index * operator.sign) := by
  obtain ⟨count, moved, advanced, same⟩ :=
    exists_valueAt_eq_likeLast (start_stepped word operator step) rfl (shows ▸ shown)
  have own := Alphabet.latin.owns_advance word count
  obtain ⟨letters', like⟩ := likeLast_of_owns filled letters own advanced
  rw [← same, shows] at letters' like
  refine ⟨letters', like, fun number counts => ?_⟩
  have reached : count = (stepped word operator step).distance index * operator.sign :=
    (displacement?_eq_some_iff.mp moved).2
  have counted := counts_likeLast own
    (Alphabet.counts_advance counts (fitsLongWord_of_displacement? moved) advanced) word
  rwa [← same, shows, reached] at counted

/-- A word of the letters `a` to `z` in any case, with an operator and a step, is read as the sequence
it writes. Put in place of the word, a value of this sequence writes a sequence that begins with it
and goes on as the first one does behind it, as long as the distances fit the words. -/
theorem valueAt_stepped_add (filled : word ≠ []) (letters : ∀ c ∈ word, c.isAlpha = true)
    (operator : Operator) (fits : step ≤ Numeral.maxWord) (white : before.IsBlank)
    (white' : behind.IsBlank) :
    read .latin (steppedText word operator step before behind) =
        .ok (stepped word operator step) ∧
      ∀ index value, (stepped word operator step).valueAt .latin index = value → value ≠ [] →
        read .latin (steppedText value operator step before behind) =
            .ok (stepped value operator step) ∧
          ∀ further, (index + further) * step + 25 ≤ 2 ^ 127 - 1 →
            (stepped value operator step).valueAt .latin further =
              (stepped word operator step).valueAt .latin (index + further) := by
  have reads {begin : Text} (filled : begin ≠ []) (letters : ∀ c ∈ begin, c.isAlpha = true) :
      read .latin (steppedText begin operator step before behind) =
        .ok (stepped begin operator step) :=
    read_steppedText filled (fun c member => isWordLetter_of_isAlpha (letters c member))
      (fun c member => contains_latin_of_isAlpha (letters c member)) operator fits white white'
  refine ⟨reads filled letters, ?_⟩
  intro index value shows shown
  obtain ⟨letters', like, reaches⟩ := likeLast_valueAt_stepped filled letters shows shown
  refine ⟨reads shown letters', ?_⟩
  intro further room
  obtain ⟨number, counts⟩ := Alphabet.exists_counts_of_contains fun c member =>
    contains_latin_of_isAlpha (letters c member)
  have size : Alphabet.latin.size = 26 := rfl
  have total : (stepped word operator step).distance (index + further) =
      (index + further) * step := by
    simp [distance, stepped, ofStart]
  have split := distance_stepped_add word value operator step index further
  have sum : number + (stepped word operator step).distance index * operator.sign +
      (stepped value operator step).distance further * operator.sign =
        number + (stepped word operator step).distance (index + further) * operator.sign := by
    rw [split, Int.natCast_add, Int.add_mul, Int.add_assoc]
  calc (stepped value operator step).valueAt .latin further
      = likeLast value (Alphabet.latin.wordOf
          (number + (stepped word operator step).distance index * operator.sign +
            (stepped value operator step).distance further * operator.sign)) :=
        valueAt_eq_wordOf (start_stepped ..) rfl (reaches number counts) (by omega)
    _ = likeLast word (Alphabet.latin.wordOf (number +
          (stepped word operator step).distance (index + further) * operator.sign)) := by
        rw [like, sum]
    _ = (stepped word operator step).valueAt .latin (index + further) :=
        (valueAt_eq_wordOf (start_stepped ..) rfl counts (by omega)).symm

/-- Steps of 27 down from `aBc`, resumed at the second value. -/
theorem valueAt_stepped_add_backwards :
    (stepped ['a', 'B', 'c'] .subtract 27).valueAt .latin 1 = ['a', 'a', 'b'] ∧
      read .latin "aab - 27".toList = .ok (stepped ['a', 'a', 'b'] .subtract 27) ∧
      (stepped ['a', 'a', 'b'] .subtract 27).valueAt .latin 2 =
        (stepped ['a', 'B', 'c'] .subtract 27).valueAt .latin 3 := by
  have value : (stepped ['a', 'B', 'c'] .subtract 27).valueAt .latin 1 = ['a', 'a', 'b'] := by
    decide +kernel
  have letters : ∀ c ∈ ['a', 'B', 'c'], c.isAlpha = true := List.all_eq_true.mp (by decide)
  have blank : Text.IsBlank [' '] := List.all_eq_true.mp (by decide)
  obtain ⟨reads, goesOn⟩ := (valueAt_stepped_add (by simp) letters .subtract
    (by decide : 27 ≤ Numeral.maxWord) blank blank).2 1 _ value (by simp)
  have text : steppedText ['a', 'a', 'b'] .subtract 27 [' '] [' '] = "aab - 27".toList := by
    decide +kernel
  rw [text] at reads
  exact ⟨value, reads, goesOn 2 (by decide)⟩

end Numbering.Expression
