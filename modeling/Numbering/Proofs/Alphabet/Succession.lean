import Mathlib.Logic.Function.Iterate
import Numbering.Proofs.Alphabet.Advance

/-! # Words one after another

Words stand in order of their length, and words of one length letter by letter in the order of the
alphabet. This is the order of the numbers that they count (`precedes_iff`), so no word is skipped by a
step of one: it leads to the word right behind or right in front (`adjacent_wordOf`). Single steps add
up to a jump in either direction, since each of them moves the number by one (`iterate_advance_one`,
`iterate_advance_neg_one`).
-/

namespace Numbering.Alphabet

open Bijective
open Numeral (FitsLongWord)

variable {alphabet : Alphabet} {word next : Text} {number other : Int}

/-- The order of words: shorter ones first, and of one length by the places of their letters. -/
def Precedes (alphabet : Alphabet) (first second : Text) : Prop :=
  ∃ places others, alphabet.places? first = some places ∧
    alphabet.places? second = some others ∧ List.Shortlex (· < ·) places others

/-- Two words of the alphabet's own letters that stand next to each other in their order. -/
structure Adjacent (alphabet : Alphabet) (word next : Text) : Prop where
  owns : alphabet.Owns word ∧ alphabet.Owns next
  filled : word ≠ [] ∧ next ≠ []
  precedes : alphabet.Precedes word next
  immediate : ∀ between, alphabet.Owns between → alphabet.Precedes word between →
    ¬ alphabet.Precedes between next

/-! ## The order of words is that of their numbers -/

theorem precedes_iff (counts : alphabet.Counts word number) (counts' : alphabet.Counts next other) :
    alphabet.Precedes word next ↔ number < other := by
  obtain ⟨places, found, rfl⟩ := counts
  obtain ⟨others, found', rfl⟩ := counts'
  have ordered := shortlex_iff_value_lt (lt_of_mem_places found) (lt_of_mem_places found')
  rw [value_eq_weightedSum, value_eq_weightedSum] at ordered
  rw [Int.ofNat_lt, ← ordered]
  constructor
  · rintro ⟨places', others', again, again', before⟩
    obtain rfl := Option.some.inj (found.symm.trans again)
    obtain rfl := Option.some.inj (found'.symm.trans again')
    exact before
  · exact fun before => ⟨places, others, found, found', before⟩

/-- A word with letters counts a number above zero. -/
theorem Owns.exists_counts (own : alphabet.Owns word) (filled : word ≠ []) :
    ∃ number : Int, 0 < number ∧ alphabet.Counts word number := by
  obtain ⟨places, found⟩ := own.exists_places?
  have wide : 0 < alphabet.size := Nat.lt_of_lt_of_le Nat.zero_lt_two alphabet.two_le_size
  have positive := value_pos wide (places_ne_nil found filled)
  rw [value_eq_weightedSum] at positive
  exact ⟨_, Int.natCast_pos.mpr positive, places, found, rfl⟩

theorem Owns.eq_wordOf (own : alphabet.Owns word) (counts : alphabet.Counts word number)
    (nonneg : 0 ≤ number) : word = alphabet.wordOf number :=
  eq_of_counts own (owns_spell alphabet _) counts (counts_wordOf nonneg)

theorem wordOf_ne_nil (positive : 0 < number) : alphabet.wordOf number ≠ [] := by
  intro empty
  have counts : alphabet.Counts (alphabet.wordOf number) number :=
    counts_wordOf (Int.le_of_lt positive)
  rw [empty] at counts
  have zero : number = 0 := counts.unique ⟨[], rfl, rfl⟩
  omega

/-- The first word is the first letter. -/
theorem wordOf_one (alphabet : Alphabet) : alphabet.wordOf 1 = alphabet.letters.take 1 := by
  have digits : numeral alphabet.size (1 : Int).toNat = [0] := by
    rw [Int.toNat_one, numeral, if_neg Nat.one_ne_zero, Nat.sub_self, Nat.zero_div, Nat.zero_mod,
      numeral, if_pos rfl, List.nil_append]
  rw [wordOf, digits, spell, List.take_one, List.head?_eq_getElem?]
  cases first : alphabet.letters[0]? <;> simp [first]

/-- Words of numbers that follow each other are next to each other. -/
theorem adjacent_wordOf (positive : 0 < number) :
    alphabet.Adjacent (alphabet.wordOf number) (alphabet.wordOf (number + 1)) := by
  have counts : alphabet.Counts (alphabet.wordOf number) number :=
    counts_wordOf (Int.le_of_lt positive)
  have counts' : alphabet.Counts (alphabet.wordOf (number + 1)) (number + 1) :=
    counts_wordOf (by omega)
  refine ⟨⟨owns_spell alphabet _, owns_spell alphabet _⟩,
    ⟨wordOf_ne_nil positive, wordOf_ne_nil (by omega)⟩,
    (precedes_iff counts counts').mpr (by omega), ?_⟩
  intro between own above below
  obtain ⟨places, found⟩ := own.exists_places?
  have low := (precedes_iff counts ⟨places, found, rfl⟩).mp above
  have high := (precedes_iff ⟨places, found, rfl⟩ counts').mp below
  omega

/-! ## Single steps -/

theorem advance_one (counts : alphabet.Counts word number) :
    alphabet.advance word 1 = alphabet.wordOf (number + 1) := by
  have bounded := alphabet.size_le
  exact advance_eq_wordOf counts (by decide) (by omega)

theorem advance_neg_one (counts : alphabet.Counts word number) :
    alphabet.advance word (-1) = alphabet.wordOf (number - 1) := by
  have bounded := alphabet.size_le
  exact advance_eq_wordOf counts (by decide) (by omega)

/-- Backward from the empty word, and from the first one, the word is empty. -/
theorem advance_wordOf_neg_one (alphabet : Alphabet) (number : Int) :
    alphabet.advance (alphabet.wordOf number) (-1) = alphabet.wordOf (number - 1) := by
  by_cases nonneg : 0 ≤ number
  · exact advance_neg_one (counts_wordOf nonneg)
  · have empty : alphabet.wordOf number = alphabet.wordOf 0 := by
      rw [wordOf_of_nonpos (by omega), wordOf_of_nonpos (Int.le_refl 0)]
    rw [empty, advance_neg_one (counts_wordOf (Int.le_refl 0)), wordOf_of_nonpos (by omega),
      wordOf_of_nonpos (by omega)]

theorem iterate_advance_one (nonneg : 0 ≤ number) (count : Nat) :
    (alphabet.advance · 1)^[count] (alphabet.wordOf number) = alphabet.wordOf (number + count) := by
  induction count with
  | zero => simp
  | succ count ih =>
    rw [Function.iterate_succ_apply', ih, advance_one (counts_wordOf (by omega)), Int.add_assoc]
    rfl

theorem iterate_advance_neg_one (alphabet : Alphabet) (number : Int) (count : Nat) :
    (alphabet.advance · (-1))^[count] (alphabet.wordOf number) =
      alphabet.wordOf (number - count) := by
  induction count with
  | zero => simp
  | succ count ih =>
    rw [Function.iterate_succ_apply', ih, advance_wordOf_neg_one]
    congr 1
    omega

/-! ## Jumps -/

/-- A step forward leads to the next word and a step backward to the one before, which is empty in front
of the first word. A jump forward is as many single steps as long as the sum at the last letter stays in
the words, and a jump backward always is; the empty word stays empty under steps backward. -/
theorem advance_step_by_step (own : alphabet.Owns word) (filled : word ≠ []) :
    alphabet.Adjacent word (alphabet.advance word 1) ∧
      (word = alphabet.letters.take 1 → alphabet.advance word (-1) = []) ∧
      (word ≠ alphabet.letters.take 1 → alphabet.Adjacent (alphabet.advance word (-1)) word) ∧
      (∀ count : Nat,
        (∀ letter ∈ word.getLast?, ∀ place ∈ alphabet.place? letter,
          (place : Int) + count ≤ 2 ^ 127 - 1) →
        alphabet.advance word count = (alphabet.advance · 1)^[count] word) ∧
      (∀ count : Nat, (count : Int) ≤ 2 ^ 127 - 1 →
        alphabet.advance word (-count) = (alphabet.advance · (-1))^[count] word) ∧
      alphabet.advance [] (-1) = [] := by
  obtain ⟨number, positive, counts⟩ := own.exists_counts filled
  have same := own.eq_wordOf counts (Int.le_of_lt positive)
  rw [advance_one counts, advance_neg_one counts]
  refine ⟨same ▸ adjacent_wordOf positive, ?_, ?_, ?_, ?_, ?_⟩
  · intro first
    have one : number = 1 := by
      rw [first, ← wordOf_one] at counts
      exact counts.unique (counts_wordOf Int.one_nonneg)
    exact wordOf_of_nonpos (by omega)
  · intro later
    have many : 0 < number - 1 := by
      by_contra few
      obtain rfl : number = 1 := by omega
      exact later (same.trans (wordOf_one alphabet))
    have adjacent : alphabet.Adjacent _ (alphabet.wordOf (number - 1 + 1)) := adjacent_wordOf many
    rwa [Int.sub_add_cancel, ← same] at adjacent
  · intro count high
    obtain ⟨place, here⟩ := own.exists_place? (List.getLast_mem filled)
    have room := high _ (List.getLast?_eq_some_getLast filled) place here
    have fits : FitsLongWord count := ⟨by omega, by omega⟩
    rw [advance_eq_wordOf_of_high counts fits high, same,
      iterate_advance_one (Int.le_of_lt positive)]
  · intro count within
    have fits : FitsLongWord (-count) := ⟨by omega, by omega⟩
    have bounded := alphabet.size_le
    rw [advance_eq_wordOf counts fits (by omega), same, iterate_advance_neg_one]
    rfl
  · have zero : alphabet.Counts [] 0 := ⟨[], rfl, rfl⟩
    rw [advance_neg_one zero, wordOf_of_nonpos (by decide)]

/-- Behind the last letter comes the first word of two letters. -/
theorem advance_step_by_step_z :
    Alphabet.latin.Owns ['z'] ∧ Alphabet.latin.advance ['z'] 1 = ['a', 'a'] ∧
      Alphabet.latin.Adjacent ['z'] ['a', 'a'] ∧
      Alphabet.latin.advance ['z'] 703 = (Alphabet.latin.advance · 1)^[703] ['z'] ∧
      Alphabet.latin.advance ['z'] (-26) = (Alphabet.latin.advance · (-1))^[26] ['z'] := by
  have own : Alphabet.latin.Owns ['z'] := by
    intro letter member
    rw [List.mem_singleton.mp member]
    decide
  have next : Alphabet.latin.advance ['z'] 1 = ['a', 'a'] := by decide +kernel
  obtain ⟨adjacent, -, -, forward, backward, -⟩ := advance_step_by_step own (List.cons_ne_nil _ _)
  rw [next] at adjacent
  refine ⟨own, next, adjacent, forward 703 ?_, backward 26 (by decide)⟩
  intro letter last place here
  obtain rfl := Option.some.inj last
  have small := place?_lt here
  have size : Alphabet.latin.size = 26 := rfl
  omega

end Numbering.Alphabet
