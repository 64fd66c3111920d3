import Numbering.Proofs.Expression.Number
import Numbering.Proofs.Expression.Word

/-! # How far a sequence reaches

A value is empty beyond a distance that depends on the start and the direction only, the reach. No
distance exceeds the largest signed 128-bit word. Forward, a number has the rest of these words above
it, and a word has the rest above the place of its last letter, however long it is. Backward, numbers
end at the smallest of these words and words at the first one. Distances grow with the index, so a
sequence whose values have become empty stays empty (`valueAt_eq_nil_of_le`).
-/

namespace Numbering.Expression

open Bijective (weightedSum)
open Numeral (FitsLongWord)

variable {alphabet : Alphabet} {expression : Expression} {index later : Nat}

/-- The greatest distance from the start at which a sequence has a value. -/
def reach (alphabet : Alphabet) (expression : Expression) : Nat :=
  match expression.start with
  | .numeric start =>
    match expression.operator with
    | .add => min (2 ^ 127 - 1) (2 ^ 127 - 1 - start).toNat
    | .subtract => min (2 ^ 127 - 1) (2 ^ 127 + start).toNat
  | .alphabetic start =>
    let places := (alphabet.places? start).getD []
    match expression.operator with
    | .add => 2 ^ 127 - 1 - places.getLast?.getD 0
    | .subtract => min (2 ^ 127 - 1) (weightedSum alphabet.size places - 1)

theorem distance_le (order : index ≤ later) :
    expression.distance index ≤ expression.distance later :=
  Nat.mul_le_mul_right _ (Nat.add_le_add_left (Nat.div_le_div_right order) _)

/-! ## Numbers -/

/-- A number that starts in the 64-bit words leaves the 128-bit words in its direction only. -/
theorem numberAt_eq_nil_iff_reach {start : Int} (numeric : expression.start = .numeric start)
    (fits : Numeral.FitsWord start) (wide : 2 ≤ expression.radix)
    (narrow : expression.radix ≤ 36) :
    expression.numberAt start index = [] ↔
      expression.reach alphabet < expression.distance index := by
  obtain ⟨low, high⟩ := fits
  rw [numberAt_eq_nil_iff wide narrow, exactValue_eq, reach, numeric]
  unfold FitsLongWord
  cases expression.operator with
  | add =>
    simp only [Operator.sign]
    omega
  | subtract =>
    simp only [Operator.sign]
    omega

/-! ## Words -/

theorem wordAt_eq_nil_iff {start : Text} :
    expression.wordAt alphabet start index = [] ↔
      2 ^ 127 - 1 < expression.distance index ∨
        alphabet.advance start (expression.distance index * expression.operator.sign) = [] := by
  rw [wordAt, displacement?_eq]
  by_cases near : expression.distance index ≤ 2 ^ 127 - 1
  · rw [if_pos near, or_iff_right (Nat.not_lt.mpr near)]
    dsimp only
    cases alphabet.advance start (expression.distance index * expression.operator.sign) with
    | nil => exact iff_of_true rfl rfl
    | cons first rest =>
      exact iff_of_false (Text.padLeft_ne_nil (likeLast_ne_nil (List.cons_ne_nil first rest)))
        (List.cons_ne_nil first rest)
  · rw [if_neg near]
    exact iff_of_true rfl (.inl (Nat.lt_of_not_le near))

/-- The places of a word that is not empty have a last one and count a number above zero. -/
theorem exists_last_place {word : Text} {places : List Nat} (filled : word ≠ [])
    (found : alphabet.places? word = some places) :
    (∃ last, places.getLast? = some last ∧ last < alphabet.size) ∧
      0 < weightedSum alphabet.size places := by
  have wide := alphabet.two_le_size
  have long := Alphabet.places_ne_nil found filled
  constructor
  · have inside := Alphabet.lt_of_mem_places found _ (List.getLast_mem long)
    exact ⟨_, List.getLast?_eq_some_getLast long, inside⟩
  · rw [← Bijective.value_eq_weightedSum]
    exact Bijective.value_pos (by omega) long

/-- A word is empty beyond its reach: forward the sum at the last letter decides, backward the number
that the start counts. -/
theorem wordAt_eq_nil_iff_reach {start : Text} (alphabetic : expression.start = .alphabetic start)
    (filled : start ≠ []) (known : ∀ c ∈ start, alphabet.contains c = true) :
    expression.wordAt alphabet start index = [] ↔
      expression.reach alphabet < expression.distance index := by
  obtain ⟨-, places, found, -⟩ := Alphabet.exists_counts_of_contains known
  obtain ⟨⟨last, ends, small⟩, positive⟩ := exists_last_place filled found
  have bounded := alphabet.size_le
  rw [wordAt_eq_nil_iff]
  simp only [reach, alphabetic, found, Option.getD_some]
  by_cases near : expression.distance index ≤ 2 ^ 127 - 1
  · have fits : FitsLongWord (expression.distance index * expression.operator.sign) :=
      fitsLongWord_of_displacement? (displacement?_eq_some_iff.mpr ⟨near, rfl⟩)
    rw [Alphabet.advance_eq_nil_iff found fits]
    cases expression.operator with
    | add =>
      simp only [Operator.sign, ends, Option.mem_some_iff, exists_eq_left', Option.getD_some]
      omega
    | subtract =>
      simp only [Operator.sign, ends, Option.mem_some_iff, exists_eq_left']
      omega
  · have far : 2 ^ 127 - 1 < expression.distance index := Nat.lt_of_not_le near
    refine iff_of_true (.inl far) ?_
    cases expression.operator with
    | add => exact Nat.lt_of_le_of_lt (Nat.sub_le _ _) far
    | subtract => exact Nat.lt_of_le_of_lt (Nat.min_le_left _ _) far

/-! ## Values -/

theorem valueAt_eq_nil_iff_reach (readable : expression.Readable alphabet) :
    expression.valueAt alphabet index = [] ↔
      expression.reach alphabet < expression.distance index := by
  have known := readable.start
  rw [valueAt]
  cases start : expression.start with
  | numeric number =>
    rw [start] at known
    exact numberAt_eq_nil_iff_reach start known readable.limits.wide readable.limits.narrow
  | alphabetic word =>
    rw [start] at known
    exact wordAt_eq_nil_iff_reach start known.1 known.2.2

/-- A value of a sequence that is read is empty exactly beyond the reach of the sequence. So the
indices with values that are not empty come first: from an empty value on, all of them are empty. -/
theorem valueAt_eq_nil_of_le {text : Text} (reads : read alphabet text = .ok expression) :
    (∀ index, expression.valueAt alphabet index = [] ↔
      expression.reach alphabet < expression.distance index) ∧
      ∀ index later, index ≤ later → expression.valueAt alphabet index = [] →
        expression.valueAt alphabet later = [] := by
  have beyond (index : Nat) : expression.valueAt alphabet index = [] ↔
      expression.reach alphabet < expression.distance index :=
    valueAt_eq_nil_iff_reach (readable_of_read reads)
  refine ⟨beyond, fun index later order empty => ?_⟩
  rw [beyond] at empty ⊢
  exact Nat.lt_of_lt_of_le empty (distance_le order)

/-- From `c` down by one there are three words, and none after them. -/
theorem valueAt_eq_nil_of_le_down :
    ∃ expression, read .latin "c-1".toList = .ok expression ∧
      expression.valueAt .latin 2 ≠ [] ∧
        ∀ later, 3 ≤ later → expression.valueAt .latin later = [] := by
  let down : Expression := { ofStart (.alphabetic ['c']) with operator := .subtract }
  have reads : read .latin "c-1".toList = .ok down := by decide
  obtain ⟨beyond, onwards⟩ := valueAt_eq_nil_of_le reads
  have last : down.valueAt .latin 2 ≠ [] := mt (beyond 2).mp (by decide)
  have empty : down.valueAt .latin 3 = [] := (beyond 3).mpr (by decide)
  exact ⟨down, reads, last, fun later order => onwards 3 later order empty⟩

end Numbering.Expression
