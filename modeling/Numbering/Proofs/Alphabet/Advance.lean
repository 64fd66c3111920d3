import Numbering.Proofs.Alphabet.Odometer
import Numbering.Proofs.Alphabet.Words

/-! # The word that a count leads to

Advancing a word adds a count to the number that it counts. There is exactly one word of the
alphabet's own letters for every number above zero, and the result is that word; at zero and below
it is empty. Besides, it is empty for a letter outside the alphabet, and for a sum at the last
letter that no signed 128-bit word holds. No other limit of the words shows in a result.
-/

namespace Numbering.Alphabet

open Bijective
open Numeral (FitsLongWord)

variable {alphabet : Alphabet} {start : Text} {places : List Nat} {count : Int}

theorem advance_of_places? (found : alphabet.places? start = some places) (count : Int) :
    alphabet.advance start count =
      ((movePlaces? alphabet.size places count).map alphabet.spell).getD [] := by
  rw [advance, found, Option.bind_some]
  cases movePlaces? alphabet.size places count <;> rfl

theorem advance_of_stray (stray : ∃ letter ∈ start, alphabet.place? letter = none) (count : Int) :
    alphabet.advance start count = [] := by
  have none : alphabet.places? start = none := mapM_eq_none_iff.mpr stray
  rw [advance, none]
  rfl

theorem owns_advance (alphabet : Alphabet) (start : Text) (count : Int) :
    alphabet.Owns (alphabet.advance start count) := by
  rw [advance]
  split
  · exact owns_spell alphabet _
  · simp [Owns]

/-- Within the words, the result is empty or counts as far as asked. -/
theorem advance_of_fits (found : alphabet.places? start = some places) (fits : FitsLongWord count)
    (high : ∀ last ∈ places.getLast?, (last : Int) + count ≤ 2 ^ 127 - 1) :
    (weightedSum alphabet.size places + count ≤ 0 → alphabet.advance start count = []) ∧
      (0 < weightedSum alphabet.size places + count →
        alphabet.Owns (alphabet.advance start count) ∧
          alphabet.Counts (alphabet.advance start count)
            (weightedSum alphabet.size places + count)) := by
  rw [advance_of_places? found, ← value_eq_weightedSum]
  rcases movePlaces?_value alphabet.two_le_size (size_le alphabet) (lt_of_mem_places found) fits
    high with ⟨moved, under⟩ | ⟨digits, moved, small, same⟩
  · rw [moved]
    exact ⟨fun _ => rfl, fun above => absurd under (by omega)⟩
  · rw [moved, Option.map_some, Option.getD_some]
    refine ⟨fun under => ?_, fun _ => ⟨owns_spell alphabet digits, digits, places?_spell small, ?_⟩⟩
    · have empty : digits = [] := by
        by_contra filled
        have positive := value_pos (Nat.lt_of_lt_of_le Nat.zero_lt_two alphabet.two_le_size) filled
        omega
      rw [empty]
      rfl
    · rw [← value_eq_weightedSum, same]

/-- A result is empty for two reasons: a sum at the last letter that no word holds, and a number that
is not above zero. -/
theorem advance_eq_nil_iff (found : alphabet.places? start = some places)
    (fits : FitsLongWord count) :
    alphabet.advance start count = [] ↔
      (∃ last ∈ places.getLast?, 2 ^ 127 - 1 < (last : Int) + count) ∨
        weightedSum alphabet.size places + count ≤ 0 := by
  by_cases outside : ∃ last ∈ places.getLast?, 2 ^ 127 - 1 < (last : Int) + count
  · obtain ⟨last, ends, high⟩ := outside
    refine iff_of_true ?_ (.inl ⟨last, ends, high⟩)
    rw [advance_of_places? found, movePlaces?_eq_none alphabet.two_le_size (size_le alphabet)
      (lt_of_mem_places found) fits ends high]
    rfl
  · have inside : ∀ last ∈ places.getLast?, (last : Int) + count ≤ 2 ^ 127 - 1 :=
      fun last ends => Int.le_of_not_gt fun high => outside ⟨last, ends, high⟩
    obtain ⟨under, above⟩ := advance_of_fits found fits inside
    rw [or_iff_right outside]
    refine ⟨fun empty => ?_, under⟩
    by_contra positive
    have counts := (above (Int.lt_of_not_ge positive)).2
    rw [empty] at counts
    exact positive (Int.le_of_eq (counts.unique ⟨[], rfl, rfl⟩))

/-- A result that is not empty counts as far as asked from the number of its start. -/
theorem counts_advance {number : Int} (counts : alphabet.Counts start number)
    (fits : FitsLongWord count) (filled : alphabet.advance start count ≠ []) :
    alphabet.Counts (alphabet.advance start count) (number + count) := by
  obtain ⟨places, found, rfl⟩ := counts
  have reached := mt (advance_eq_nil_iff found fits).mpr filled
  rw [not_or] at reached
  have high : ∀ last ∈ places.getLast?, (last : Int) + count ≤ 2 ^ 127 - 1 :=
    fun last ends => Int.le_of_not_gt fun above => reached.1 ⟨last, ends, above⟩
  exact ((advance_of_fits found fits high).2 (Int.lt_of_not_ge reached.2)).2

/-- Only a word that counts a number leads to a word. -/
theorem exists_counts_of_advance (filled : alphabet.advance start count ≠ []) :
    ∃ number, alphabet.Counts start number := by
  cases found : alphabet.places? start with
  | some places => exact ⟨_, places, found, rfl⟩
  | none => exact absurd (advance_of_stray (mapM_eq_none_iff.mp found) count) filled

/-- Different counts lead to different words. -/
theorem advance_inj {count' : Int} (fits : FitsLongWord count) (fits' : FitsLongWord count')
    (filled : alphabet.advance start count ≠ []) (filled' : alphabet.advance start count' ≠ []) :
    alphabet.advance start count = alphabet.advance start count' ↔ count = count' := by
  constructor
  · intro same
    obtain ⟨number, counts⟩ := exists_counts_of_advance filled
    have reached := counts_advance counts fits filled
    rw [same] at reached
    have sum := reached.unique (counts_advance counts fits' filled')
    omega
  · rintro rfl
    rfl

/-- The word of the alphabet's own letters that counts a number, empty at zero and below. -/
def wordOf (alphabet : Alphabet) (number : Int) : Text :=
  alphabet.spell (numeral alphabet.size number.toNat)

theorem wordOf_of_nonpos {number : Int} (low : number ≤ 0) : alphabet.wordOf number = [] := by
  rw [wordOf, Int.toNat_of_nonpos low, numeral, if_pos rfl]
  rfl

theorem counts_wordOf {number : Int} (nonneg : 0 ≤ number) :
    alphabet.Counts (alphabet.wordOf number) number := by
  have wide : 0 < alphabet.size := Nat.lt_of_lt_of_le Nat.zero_lt_two alphabet.two_le_size
  refine ⟨_, places?_spell fun place member => lt_of_mem_numeral wide member, ?_⟩
  rw [← value_eq_weightedSum, value_numeral]
  exact Int.toNat_of_nonneg nonneg

/-- While the sum at the last letter stays in the words, advancing is a matter of the numbers alone. -/
theorem advance_eq_wordOf_of_high {number : Int} (counts : alphabet.Counts start number)
    (fits : FitsLongWord count)
    (high : ∀ letter ∈ start.getLast?, ∀ place ∈ alphabet.place? letter,
      (place : Int) + count ≤ 2 ^ 127 - 1) :
    alphabet.advance start count = alphabet.wordOf (number + count) := by
  obtain ⟨places, found, rfl⟩ := counts
  have ends : ∀ last ∈ places.getLast?, (last : Int) + count ≤ 2 ^ 127 - 1 := by
    intro last ends
    rw [getLast?_places found] at ends
    obtain ⟨letter, final, here⟩ := Option.bind_eq_some_iff.mp ends
    exact high letter final last here
  obtain ⟨under, above⟩ := advance_of_fits found fits ends
  by_cases positive : 0 < weightedSum alphabet.size places + count
  · obtain ⟨own, counts⟩ := above positive
    exact eq_of_counts own (owns_spell alphabet _) counts (counts_wordOf (Int.le_of_lt positive))
  · rw [under (by omega), wordOf_of_nonpos (by omega)]

/-- With room for one more digit in the words, no sum at the last letter leaves them. -/
theorem advance_eq_wordOf {number : Int} (counts : alphabet.Counts start number)
    (fits : FitsLongWord count) (room : count + alphabet.size ≤ 2 ^ 127) :
    alphabet.advance start count = alphabet.wordOf (number + count) := by
  refine advance_eq_wordOf_of_high counts fits fun letter _ place here => ?_
  have small := place?_lt here
  omega

/-- Only letters are looked up that the alphabet has. -/
theorem lt_size_of_moved (found : alphabet.places? start = some places) (fits : FitsLongWord count)
    {moved : List Nat} (moves : movePlaces? alphabet.size places count = some moved) :
    ∀ place ∈ moved, place < alphabet.size := by
  have small := lt_of_mem_places found
  by_cases high : ∀ last ∈ places.getLast?, (last : Int) + count ≤ 2 ^ 127 - 1
  · rcases movePlaces?_value alphabet.two_le_size (size_le alphabet) small fits high with
      ⟨stuck, -⟩ | ⟨digits, moves', below, -⟩
    · rw [stuck] at moves
      cases moves
    · rw [moves] at moves'
      exact Option.some.inj moves' ▸ below
  · simp only [not_forall, Int.not_le] at high
    obtain ⟨last, ends, outside⟩ := high
    have stuck := movePlaces?_eq_none alphabet.two_le_size (size_le alphabet) small fits ends outside
    rw [stuck] at moves
    cases moves

/-- Advancing a word gives the empty text for a letter outside the alphabet and for a sum at the
last letter that no signed word holds. Otherwise it gives the one word of the alphabet's own letters
that counts as far as asked, or the empty text where that is not above zero. -/
theorem advance_counts (alphabet : Alphabet) (start : Text) {count : Int}
    (fits : FitsLongWord count) :
    ((∃ letter ∈ start, alphabet.place? letter = none) → alphabet.advance start count = []) ∧
      ∀ places, alphabet.places? start = some places →
        (∀ moved, movePlaces? alphabet.size places count = some moved →
          ∀ place ∈ moved, place < alphabet.size) ∧
        ((∃ last ∈ places.getLast?, 2 ^ 127 - 1 < (last : Int) + count) →
          alphabet.advance start count = []) ∧
        ((∀ last ∈ places.getLast?, (last : Int) + count ≤ 2 ^ 127 - 1) →
          (weightedSum alphabet.size places + count ≤ 0 → alphabet.advance start count = []) ∧
          (0 < weightedSum alphabet.size places + count →
            alphabet.Owns (alphabet.advance start count) ∧
            alphabet.Counts (alphabet.advance start count)
              (weightedSum alphabet.size places + count) ∧
            ∀ other, alphabet.Owns other →
              alphabet.Counts other (weightedSum alphabet.size places + count) →
              other = alphabet.advance start count)) := by
  refine ⟨fun stray => advance_of_stray stray count, fun places found => ⟨?_, ?_, ?_⟩⟩
  · exact fun moved => lt_size_of_moved found fits
  · rintro ⟨last, ends, outside⟩
    rw [advance_of_places? found, movePlaces?_eq_none alphabet.two_le_size (size_le alphabet)
      (lt_of_mem_places found) fits ends outside]
    rfl
  · intro high
    obtain ⟨under, above⟩ := advance_of_fits found fits high
    refine ⟨under, fun positive => ?_⟩
    obtain ⟨own, counts⟩ := above positive
    exact ⟨own, counts, fun other own' counts' => eq_of_counts own' own counts' counts⟩

/-- The last letter of `az` goes over and carries. -/
theorem advance_counts_az :
    Alphabet.latin.Counts (Alphabet.latin.advance ['a', 'z'] 1) 53 ∧
      ∀ other, Alphabet.latin.Owns other → Alphabet.latin.Counts other 53 →
        other = Alphabet.latin.advance ['a', 'z'] 1 := by
  have found : Alphabet.latin.places? ['a', 'z'] = some [0, 25] := by decide
  have high : ∀ last ∈ [0, 25].getLast?, ((last : Nat) : Int) + 1 ≤ 2 ^ 127 - 1 := by decide
  have fits : FitsLongWord 1 := by decide
  have spec := (advance_counts .latin ['a', 'z'] fits).2 [0, 25] found
  exact ((spec.2.2 high).2 (by decide)).2

end Numbering.Alphabet
