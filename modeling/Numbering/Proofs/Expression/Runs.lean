import Numbering.Proofs.Expression.Word
import Numbering.Proofs.Text.Apart

/-! # Runs of equal values

The repeats of an alphabetic sequence share a word, and words further on differ. Their values are the
words in the case of the start, so two of them are equal beyond a run exactly if case makes one text
of two words. No word of an alphabet meets another exactly if its letters stay apart in that case
(`likeLast_injOn_iff`), and then the runs are as long as the repeats (`valueAt_eq_iff_same_run`).
-/

namespace Numbering.Expression

open Character

variable {alphabet : Alphabet} {start word : Text}

/-! ## Words in the case of a start -/

/-- Whether words over letters stay apart in the case of a start. -/
def StaysApart (start letters : Text) : Prop :=
  ∀ last ∈ start.getLast?,
    (isUppercase last = true → Text.UppercaseApart letters) ∧
      (isUppercase last = false → isLowercase last = true → ¬ ('ς' ∈ letters ∧ 'Σ' ∈ letters))

/-- Case tells the words of an alphabet apart exactly if its letters stay apart. -/
theorem likeLast_injOn_iff (alphabet : Alphabet) (start : Text) :
    Set.InjOn (likeLast start) (Text.words alphabet.letters) ↔
      StaysApart start alphabet.letters := by
  unfold likeLast StaysApart
  cases start.getLast? with
  | none => simp [Set.InjOn]
  | some last =>
    cases upper : isUppercase last with
    | true => simpa [upper] using Text.toUppercase_injOn_iff
    | false =>
      cases lower : isLowercase last with
      | true => simpa [upper, lower] using Text.toLowercase_injOn_iff alphabet.fold_injOn
      | false => simp [upper, lower, Set.InjOn]

/-- Plain letters stay apart in the case of every start. -/
theorem staysApart_of_plain (plain : ∀ letter ∈ alphabet.letters, Plain letter) (start : Text) :
    StaysApart start alphabet.letters := by
  rw [← likeLast_injOn_iff]
  intro word own other own' same
  refine Text.map_injOn alphabet.fold_injOn own own' ?_
  rw [← (map_fold_likeLast_iff start word).mpr (keepsLetters_of_plain plain own start), same,
    (map_fold_likeLast_iff start other).mpr (keepsLetters_of_plain plain own' start)]

theorem blank_mem_likeLast (blank : ' ' ∈ likeLast start word) : ' ' ∈ word := by
  rw [likeLast] at blank
  split at blank
  · exact blank
  · split_ifs at blank
    · exact Text.blank_mem_toUppercase blank
    · exact Text.blank_mem_lowercaseAfter blank
    · exact blank

/-- No word of an alphabet has a blank, in whichever case. -/
theorem blank_notMem_likeLast (own : alphabet.Owns word) (start : Text) :
    ' ' ∉ likeLast start word := by
  intro blank
  have letter := alphabet.alphabetic ' ' (own ' ' (blank_mem_likeLast blank))
  exact absurd letter (by decide)

/-! ## Values -/

/-- Of a sequence that moves and is filled with blanks, two values that are not empty belong to one run
exactly if they come from one word, and are equal exactly if the words are the same text in the case
of the start. Over letters that stay apart in that case, they are equal exactly within a run. -/
theorem valueAt_eq_iff_same_run (alphabet : Alphabet) {expression : Expression} {index other : Nat}
    (alphabetic : expression.start = .alphabetic start) (moves : 0 < expression.step)
    (blank : expression.fill = ' ') (shown : expression.valueAt alphabet index ≠ [])
    (shown' : expression.valueAt alphabet other ≠ []) :
    ∃ count count', expression.displacement? index = some count ∧
      expression.displacement? other = some count' ∧
      (alphabet.advance start count = alphabet.advance start count' ↔
        index / expression.repeats = other / expression.repeats) ∧
      (expression.valueAt alphabet index = expression.valueAt alphabet other ↔
        likeLast start (alphabet.advance start count) =
          likeLast start (alphabet.advance start count')) ∧
      (StaysApart start alphabet.letters →
        (expression.valueAt alphabet index = expression.valueAt alphabet other ↔
          index / expression.repeats = other / expression.repeats)) := by
  obtain ⟨count, moved, filled, value⟩ := exists_valueAt_eq_padLeft alphabetic shown
  obtain ⟨count', moved', filled', value'⟩ := exists_valueAt_eq_padLeft alphabetic shown'
  have own := alphabet.owns_advance start count
  have own' := alphabet.owns_advance start count'
  have words : alphabet.advance start count = alphabet.advance start count' ↔
      index / expression.repeats = other / expression.repeats := by
    rw [Alphabet.advance_inj (fitsLongWord_of_displacement? moved)
      (fitsLongWord_of_displacement? moved') filled filled', displacement?_inj moves moved moved']
  have values : expression.valueAt alphabet index = expression.valueAt alphabet other ↔
      likeLast start (alphabet.advance start count) =
        likeLast start (alphabet.advance start count') := by
    rw [value, value', blank, Text.padLeft_inj (blank_notMem_likeLast own start)
      (blank_notMem_likeLast own' start)]
  refine ⟨count, count', moved, moved', words, values, fun apart => ?_⟩
  have told := (likeLast_injOn_iff alphabet start).mpr apart
  rw [values, told.eq_iff own own', words]

/-- Pairs of equal values from `Y` on, over the letters `a` to `z`. -/
theorem valueAt_eq_iff_same_run_pairs :
    let pairs := { ofStart (.alphabetic ['Y']) with repeats := 2, repeats_pos := by decide }
    pairs.valueAt .latin 2 = pairs.valueAt .latin 3 ∧
      pairs.valueAt .latin 3 ≠ pairs.valueAt .latin 4 := by
  intro pairs
  have second : pairs.valueAt .latin 2 ≠ [] := by decide +kernel
  have third : pairs.valueAt .latin 3 ≠ [] := by decide +kernel
  have fourth : pairs.valueAt .latin 4 ≠ [] := by decide +kernel
  have apart := staysApart_of_plain plain_latin ['Y']
  obtain ⟨-, -, -, -, -, -, within⟩ :=
    valueAt_eq_iff_same_run .latin rfl (by decide) rfl second third
  obtain ⟨-, -, -, -, -, -, beyond⟩ :=
    valueAt_eq_iff_same_run .latin rfl (by decide) rfl third fourth
  exact ⟨(within apart).mpr (by decide), fun same => absurd ((beyond apart).mp same) (by decide)⟩

/-- An alphabet with the small i and the small i without a dot, which have one capital. -/
def dotless : Alphabet where
  letters := ['i', 'ı']
  two_le_length := by decide
  alphabetic := List.all_eq_true.mp (by decide)
  folds_nodup := by decide

/-- From `I` on, the values of different words over such letters are equal, one index apart and with a
repeat of one. -/
theorem valueAt_eq_beyond_run :
    Alphabet.ofLetters ['i', 'ı'] = .ok dotless ∧
      read dotless ['I'] = .ok (ofStart (.alphabetic ['I'])) ∧
      dotless.advance ['I'] 0 = ['i'] ∧ dotless.advance ['I'] 1 = ['ı'] ∧
      (ofStart (.alphabetic ['I'])).valueAt dotless 0 = ['I'] ∧
      (ofStart (.alphabetic ['I'])).valueAt dotless 1 = ['I'] ∧
      0 / (ofStart (.alphabetic ['I'])).repeats ≠ 1 / (ofStart (.alphabetic ['I'])).repeats := by
  decide +kernel

end Numbering.Expression
