import Numbering.Proofs.Expression.Reach

/-! # The first value

At the first index a sequence stands at its offset: an offset is only written where the step is one.
Offsets are 64-bit words, so none of the limits of the 128-bit words is near, and of all the ways in
which a value can be empty only one is left. A word that is counted down has no first value if its
offset is at least the number that it counts.
-/

namespace Numbering.Expression

open Bijective (weightedSum)

variable {alphabet : Alphabet} {expression : Expression} {text word : Text}

theorem distance_zero (single : expression.step = 1 ∨ expression.offset = 0) :
    expression.distance 0 = expression.offset := by
  rw [distance, Nat.zero_div, Nat.add_zero]
  rcases single with step | offset
  · rw [step, Nat.mul_one]
  · rw [offset, Nat.zero_mul]

/-- The number that a start counts is not zero. -/
theorem Readable.counts_pos (readable : expression.Readable alphabet)
    (alphabetic : expression.start = .alphabetic word) {number : Int}
    (counts : alphabet.Counts word number) : 0 < number := by
  obtain ⟨places, found, rfl⟩ := counts
  exact_mod_cast (exists_last_place (readable.word alphabetic).1 found).2

theorem offset_lt (readable : expression.Readable alphabet) : expression.offset < 2 ^ 64 := by
  have bound := readable.limits.offset
  unfold Numeral.maxWord at bound
  omega

/-! ## Offsets and the reach -/

/-- No offset leads a number out of the words. -/
theorem offset_le_reach_of_numeric (readable : expression.Readable alphabet) {number : Int}
    (numeric : expression.start = .numeric number) :
    expression.offset ≤ expression.reach alphabet := by
  have small := offset_lt readable
  have fits := readable.start
  rw [numeric] at fits
  obtain ⟨low, high⟩ := fits
  rw [reach, numeric]
  cases expression.operator with
  | add => dsimp only; omega
  | subtract => dsimp only; omega

/-- Nor does it lead a word too far forward, for alphabets are small. -/
theorem offset_le_reach_of_add (readable : expression.Readable alphabet)
    (alphabetic : expression.start = .alphabetic word) (forward : expression.operator = .add) :
    expression.offset ≤ expression.reach alphabet := by
  have small := offset_lt readable
  have bounded := alphabet.size_le
  obtain ⟨filled, -, known⟩ := readable.word alphabetic
  obtain ⟨-, places, found, -⟩ := Alphabet.exists_counts_of_contains known
  obtain ⟨⟨last, ends, inside⟩, -⟩ := exists_last_place filled found
  simp only [reach, alphabetic, forward, found, ends, Option.getD_some]
  omega

/-- Backward, the number of the word is what an offset has to stay below. -/
theorem reach_lt_offset_iff_of_subtract (readable : expression.Readable alphabet)
    (alphabetic : expression.start = .alphabetic word) (backward : expression.operator = .subtract)
    {number : Int} (counts : alphabet.Counts word number) :
    expression.reach alphabet < expression.offset ↔ number ≤ expression.offset := by
  have small := offset_lt readable
  have positive := readable.counts_pos alphabetic counts
  obtain ⟨places, found, rfl⟩ := counts
  simp only [reach, alphabetic, backward, found, Option.getD_some]
  omega

/-- An offset lies beyond the reach only of a word that is counted down, by its number at least. -/
theorem reach_lt_offset_iff (readable : expression.Readable alphabet) :
    expression.reach alphabet < expression.offset ↔
      ∃ word number, expression.start = .alphabetic word ∧ expression.operator = .subtract ∧
        alphabet.Counts word number ∧ number ≤ expression.offset := by
  constructor
  · intro beyond
    cases start : expression.start with
    | numeric number =>
      exact absurd (offset_le_reach_of_numeric readable start) (Nat.not_le_of_lt beyond)
    | alphabetic word =>
      cases direction : expression.operator with
      | add =>
        exact absurd (offset_le_reach_of_add readable start direction) (Nat.not_le_of_lt beyond)
      | subtract =>
        obtain ⟨number, counts⟩ :=
          Alphabet.exists_counts_of_contains (readable.word start).2.2
        have low := (reach_lt_offset_iff_of_subtract readable start direction counts).mp beyond
        exact ⟨word, number, rfl, rfl, counts, low⟩
  · rintro ⟨word, number, start, direction, counts, low⟩
    exact (reach_lt_offset_iff_of_subtract readable start direction counts).mpr low

theorem valueAt_zero_eq_nil_iff (readable : expression.Readable alphabet) :
    expression.valueAt alphabet 0 = [] ↔
      ∃ word number, expression.start = .alphabetic word ∧ expression.operator = .subtract ∧
        alphabet.Counts word number ∧ number ≤ expression.offset := by
  rw [valueAt_eq_nil_iff_reach readable, distance_zero readable.single,
    reach_lt_offset_iff readable]

/-- Every expression that is read can be used: it repeats its values at least once, its radix has
digits, its fill is no `>`, an offset comes with a step of one, and a word has letters, all of them in
the alphabet, and no radix. So it has a first value, unless it counts a word down and its offset is at
least the number of the word. -/
theorem read_has_first_value (reads : read alphabet text = .ok expression) :
    (1 ≤ expression.repeats ∧ 2 ≤ expression.radix ∧ expression.radix ≤ 36 ∧
        expression.fill ≠ '>' ∧ (expression.offset = 0 ∨ expression.step = 1) ∧
        ∀ word, expression.start = .alphabetic word →
          word ≠ [] ∧ (∀ c ∈ word, ∃ place, alphabet.place? c = some place) ∧
            expression.radix = 10) ∧
      (expression.valueAt alphabet 0 = [] ↔
        ∃ word number, expression.start = .alphabetic word ∧ expression.operator = .subtract ∧
          alphabet.Counts word number ∧ number ≤ expression.offset) ∧
      ((∃ number, expression.start = .numeric number) ∨ expression.operator = .add ∨
        expression.offset = 0 → expression.valueAt alphabet 0 ≠ []) := by
  have readable := readable_of_read reads
  have limits := readable.limits
  have empty := valueAt_zero_eq_nil_iff readable
  refine ⟨⟨expression.repeats_pos, limits.wide, limits.narrow, limits.fill,
    readable.single.symm, fun word alphabetic => ?_⟩, empty, ?_⟩
  · obtain ⟨filled, -, known⟩ := readable.word alphabetic
    exact ⟨filled, fun c member => Option.isSome_iff_exists.mp (known c member),
      readable.decimal word alphabetic⟩
  · intro exempt none
    obtain ⟨word, number, alphabetic, backward, counts, low⟩ := empty.mp none
    rcases exempt with ⟨other, numeric⟩ | forward | zero
    · simp [alphabetic] at numeric
    · simp [backward] at forward
    · have positive := readable.counts_pos alphabetic counts
      omega

/-- The letter `c` counts three: its sequence downwards has a first value behind an offset of two, and
none behind an offset of three. -/
theorem read_has_first_value_down :
    ∃ near far, read .latin "c--2".toList = .ok near ∧ read .latin "c--3".toList = .ok far ∧
      near.valueAt .latin 0 ≠ [] ∧ far.valueAt .latin 0 = [] := by
  let near : Expression :=
    { ofStart (.alphabetic ['c']) with operator := .subtract, offset := 2 }
  have reads : read .latin "c--2".toList = .ok near := by decide
  have reads' : read .latin "c--3".toList = .ok { near with offset := 3 } := by decide
  have three : Alphabet.latin.Counts ['c'] 3 := ⟨[2], by decide, by decide⟩
  refine ⟨near, _, reads, reads', ?_, ?_⟩
  · intro none
    obtain ⟨word, number, start, -, counts, low⟩ := (read_has_first_value reads).2.1.mp none
    obtain rfl : ['c'] = word := Start.alphabetic.inj start
    rw [counts.unique three] at low
    exact absurd low (by decide)
  · exact (read_has_first_value reads').2.1.mpr ⟨['c'], 3, rfl, rfl, three, by decide⟩

end Numbering.Expression
