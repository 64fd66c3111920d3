import Numbering.Proofs.Alphabet.Advance
import Numbering.Proofs.Expression.Distance
import Numbering.Proofs.Expression.Readable
import Numbering.Proofs.Text.Casing

/-! # Values of alphabetic sequences

The value at an index is a word of the alphabet in the case of the start. Letters are compared by
their folds, and the case is given to the word as a whole, so the value need not have the letters of
the word: `KeepsLetters` says when it has, and `valueAt_keeps_letters` that this is exactly when.
Such a value is a start of its own, which counts the same number.
-/

namespace Numbering.Expression

open Character

variable {alphabet : Alphabet} {start word : Text}

/-! ## A word alone as an expression -/

/-- A word alone is read as a start exactly if the grammar and the alphabet have its letters. -/
theorem read_word_iff (filled : word ≠ []) :
    read alphabet word = .ok (ofStart (.alphabetic word)) ↔
      (∀ c ∈ word, isWordLetter c = true) ∧ ∀ c ∈ word, alphabet.contains c = true := by
  constructor
  · intro accepted
    have start := (readable_of_read accepted).start
    exact ⟨start.2.1, start.2.2⟩
  · rintro ⟨letters, known⟩
    have whole := read_start alphabet (show (StartPart.word word).WellFormed from
      ⟨filled, letters⟩)
    rw [fault_word_eq_none_iff.mpr known] at whole
    exact whole

/-! ## The case of a word -/

theorem likeLast_of_isUppercase {last : Char} (ends : start.getLast? = some last)
    (upper : isUppercase last = true) (letters : Text) :
    likeLast start letters = Text.toUppercase letters := by
  simp [likeLast, ends, upper]

theorem likeLast_of_isLowercase {last : Char} (ends : start.getLast? = some last)
    (upper : isUppercase last = false) (lower : isLowercase last = true) (letters : Text) :
    likeLast start letters = Text.toLowercase letters := by
  simp [likeLast, ends, upper, lower]

/-- No letter is lost in the case of a start. -/
theorem likeLast_ne_nil {letters : Text} (filled : letters ≠ []) : likeLast start letters ≠ [] := by
  have long := List.length_pos_iff.mpr filled
  apply List.length_pos_iff.mp
  rw [likeLast]
  split
  · exact long
  · split_ifs
    · exact Nat.lt_of_lt_of_le long (Text.length_le_toUppercase letters)
    · exact Nat.lt_of_lt_of_le long (Text.length_le_lowercaseAfter [] letters)
    · exact long

/-- Whether letters stay what they are in the case of a start. In uppercase each of them has to be
one character with its fold; in lowercase there may be no dotted capital I among them and no capital
sigma that ends a word. -/
def KeepsLetters (start letters : Text) : Prop :=
  ∀ last ∈ start.getLast?,
    (isUppercase last = true → ∀ letter ∈ letters, (uppercase letter).map fold = [fold letter]) ∧
      (isUppercase last = false → isLowercase last = true →
        'İ' ∉ letters ∧ ¬ Text.FinalSigma [] letters)

theorem map_fold_likeLast_iff (start letters : Text) :
    (likeLast start letters).map fold = letters.map fold ↔ KeepsLetters start letters := by
  rw [likeLast, KeepsLetters]
  cases start.getLast? with
  | none => simp
  | some last =>
    cases upper : isUppercase last with
    | true => simp [upper, Text.map_fold_toUppercase_iff]
    | false =>
      cases lower : isLowercase last with
      | true => simp [upper, lower, Text.map_fold_toLowercase_iff]
      | false => simp [upper, lower]

/-- A letter that is the same letter in either case, wherever it stands. -/
def Plain (letter : Char) : Prop :=
  (uppercase letter).map fold = [fold letter] ∧ letter ≠ 'İ' ∧ letter ≠ 'Σ'

instance (letter : Char) : Decidable (Plain letter) := by
  unfold Plain
  infer_instance

/-- Over an alphabet of plain letters, every word keeps its letters in the case of every start. -/
theorem keepsLetters_of_plain (plain : ∀ letter ∈ alphabet.letters, Plain letter)
    (own : alphabet.Owns word) (start : Text) : KeepsLetters start word := by
  intro last _
  refine ⟨fun _ letter member => (plain letter (own letter member)).1, fun _ _ => ⟨?_, ?_⟩⟩
  · exact fun member => (plain _ (own _ member)).2.1 rfl
  · rintro ⟨front, back, rfl, -⟩
    exact (plain 'Σ' (own 'Σ' (by simp))).2.2 rfl

theorem plain_latin : ∀ letter ∈ Alphabet.latin.letters, Plain letter := by
  have all : Alphabet.latin.letters.all (decide <| Plain ·) = true := by decide
  exact fun letter member => of_decide_eq_true (List.all_eq_true.mp all letter member)

/-! ## The value at an index -/

/-- A value that is not empty is the advanced word in the case of its start, padded. -/
theorem exists_valueAt_eq_padLeft {expression : Expression} {index : Nat}
    (alphabetic : expression.start = .alphabetic start)
    (shown : expression.valueAt alphabet index ≠ []) :
    ∃ count, expression.displacement? index = some count ∧ alphabet.advance start count ≠ [] ∧
      expression.valueAt alphabet index = Text.padLeft expression.width expression.fill
        (likeLast start (alphabet.advance start count)) := by
  have value : expression.valueAt alphabet index = expression.wordAt alphabet start index := by
    rw [valueAt, alphabetic]
  rw [value, wordAt] at shown ⊢
  cases moved : expression.displacement? index with
  | none => simp [moved] at shown
  | some count =>
    cases letters : alphabet.advance start count with
    | nil => simp [moved, letters] at shown
    | cons first rest => exact ⟨count, rfl, by simp [letters], by simp [letters]⟩

/-- Without padding, a value that is not empty is the advanced word in the case of its start. -/
theorem exists_valueAt_eq_likeLast {expression : Expression} {index : Nat}
    (alphabetic : expression.start = .alphabetic start) (unpadded : expression.width = 0)
    (shown : expression.valueAt alphabet index ≠ []) :
    ∃ count, expression.displacement? index = some count ∧ alphabet.advance start count ≠ [] ∧
      expression.valueAt alphabet index = likeLast start (alphabet.advance start count) := by
  obtain ⟨count, moved, filled, value⟩ := exists_valueAt_eq_padLeft alphabetic shown
  rw [unpadded, Text.padLeft_zero] at value
  exact ⟨count, moved, filled, value⟩

/-- A value without padding has the places of the advanced word exactly if the word keeps its letters
in the case of the start. It then stands for the number of that word, and is read as a start unless
the grammar does not have one of its letters. -/
theorem valueAt_keeps_letters (alphabet : Alphabet) {expression : Expression} {index : Nat}
    (alphabetic : expression.start = .alphabetic start) (unpadded : expression.width = 0)
    (shown : expression.valueAt alphabet index ≠ []) :
    ∃ count places, expression.displacement? index = some count ∧
      alphabet.places? (alphabet.advance start count) = some places ∧
      (alphabet.places? (expression.valueAt alphabet index) = some places ↔
        KeepsLetters start (alphabet.advance start count)) ∧
      (KeepsLetters start (alphabet.advance start count) →
        (∀ number, alphabet.Counts start number →
          alphabet.Counts (expression.valueAt alphabet index) (number + count)) ∧
        (read alphabet (expression.valueAt alphabet index) =
            .ok (ofStart (.alphabetic (expression.valueAt alphabet index))) ↔
          ∀ c ∈ expression.valueAt alphabet index, isWordLetter c = true)) := by
  obtain ⟨count, moved, filled, value⟩ := exists_valueAt_eq_likeLast alphabetic unpadded shown
  obtain ⟨places, found⟩ := (alphabet.owns_advance start count).exists_places?
  have same : alphabet.places? (expression.valueAt alphabet index) = some places ↔
      KeepsLetters start (alphabet.advance start count) := by
    rw [Alphabet.places?_eq_some_iff found, value, map_fold_likeLast_iff]
  refine ⟨count, places, moved, found, same, fun keeps => ⟨fun number counts => ?_, ?_⟩⟩
  · obtain ⟨places', found', sum⟩ :=
      Alphabet.counts_advance counts (fitsLongWord_of_displacement? moved) filled
    obtain rfl := Option.some.inj (found.symm.trans found')
    exact ⟨places, same.mpr keeps, sum⟩
  · have known : ∀ c ∈ expression.valueAt alphabet index, alphabet.contains c = true := by
      intro c member
      by_contra lost
      have none : alphabet.places? (expression.valueAt alphabet index) = none :=
        mapM_eq_none_iff.mpr ⟨c, member, by simpa [Alphabet.contains] using lost⟩
      rw [same.mpr keeps] at none
      cases none
    rw [read_word_iff shown]
    exact and_iff_left known

/-- The uppercase word behind `Z`, over the letters `a` to `z`. -/
theorem valueAt_keeps_letters_latin :
    (ofStart (.alphabetic ['Z'])).valueAt .latin 1 = ['A', 'A'] ∧
      Alphabet.latin.Counts ['A', 'A'] (26 + 1) ∧
      read .latin ['A', 'A'] = .ok (ofStart (.alphabetic ['A', 'A'])) := by
  have value : (ofStart (.alphabetic ['Z'])).valueAt .latin 1 = ['A', 'A'] := by decide +kernel
  have shown : (ofStart (.alphabetic ['Z'])).valueAt .latin 1 ≠ [] := by
    rw [value]
    decide
  obtain ⟨count, places, moved, -, -, keeps⟩ := valueAt_keeps_letters .latin rfl rfl shown
  obtain rfl : 1 = count := Option.some.inj moved
  have own := Alphabet.latin.owns_advance ['Z'] 1
  obtain ⟨counts, accepted⟩ := keeps (keepsLetters_of_plain plain_latin own ['Z'])
  rw [value] at counts accepted
  have letters : ∀ c ∈ ['A', 'A'], isWordLetter c = true := List.all_eq_true.mp (by decide)
  exact ⟨value, counts 26 ⟨[25], by decide, by decide⟩, accepted.mpr letters⟩

/-- An alphabet with a capital sigma, which has two small forms. -/
def greek : Alphabet where
  letters := ['α', 'Σ']
  two_le_length := by decide
  alphabetic := List.all_eq_true.mp (by decide)
  folds_nodup := by decide

/-- Three places behind `α`, the value ends in a letter that the alphabet does not have, and it is not
read as a start. -/
theorem valueAt_not_of_alphabet :
    Alphabet.ofLetters ['α', 'Σ'] = .ok greek ∧
      read greek ['α'] = .ok (ofStart (.alphabetic ['α'])) ∧
      greek.advance ['α'] 3 = ['α', 'Σ'] ∧
      (ofStart (.alphabetic ['α'])).valueAt greek 3 = ['α', 'ς'] ∧
      greek.place? 'ς' = none ∧
      read greek ['α', 'ς'] = .error (.letterOutsideAlphabet 'ς') := by
  decide +kernel

end Numbering.Expression
