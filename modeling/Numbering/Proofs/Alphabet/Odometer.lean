import Mathlib.Tactic.LinearCombination
import Mathlib.Tactic.Linarith
import Mathlib.Tactic.Ring
import Numbering.Alphabet.Advance
import Numbering.Proofs.Numeral.Bijective

/-! # Counting on the odometer

The three passes keep one sum: the value of the places plus the carry, weighed by the base to the
number of places. The ripple keeps it from the last place on (`ripple?_value`), the absorption from
the first (`absorb?_value`), and the numeral of the surplus closes it. Only the first sum of the
ripple can leave the signed words unless the number sought is not positive anyway: later carries are
at most half as large, and a debt too large to be weighed is larger than all places together.
-/

namespace Numbering.Alphabet

open Bijective
open Numeral (FitsLongWord longWord? longWord?_eq_some_iff)

/-! ## The ripple -/

section Ripple
variable {base : Nat} {carry left : Int} {places moved : List Nat}

theorem longWord?_eq_none_iff {number : Int} : longWord? number = none ↔ ¬ FitsLongWord number := by
  simp [longWord?]

/-- One step of the ripple keeps the sum. -/
theorem digit_add_carry (base place : Nat) (wide : 0 < base) (carry : Int) :
    ((((place + carry) % base).toNat : Nat) : Int) + (place + carry) / base * base =
      place + carry := by
  have nonneg : 0 ≤ (place + carry) % (base : Int) := Int.emod_nonneg _ (by omega)
  rw [Int.toNat_of_nonneg nonneg, Int.mul_comm]
  exact Int.emod_add_mul_ediv _ _

/-- The ripple keeps the number of places, puts digits in them and moves the value by the count, up
to what leaves the first place. -/
theorem ripple?_value (wide : 0 < base) (small : ∀ place ∈ places, place < base)
    (found : ripple? base carry places = some (left, moved)) :
    moved.length = places.length ∧ (∀ place ∈ moved, place < base) ∧
      value base moved.reverse + left * base ^ places.length =
        value base places.reverse + carry := by
  -- the carry is left general, since every place hands another one to the next
  induction places generalizing carry left moved with
  | nil =>
    obtain ⟨rfl, rfl⟩ := Prod.mk.inj (Option.some.inj found)
    simp
  | cons place rest ih =>
    rw [ripple?] at found
    split at found
    · rename_i zero
      obtain ⟨rfl, rfl⟩ := Prod.mk.inj (Option.some.inj found)
      exact ⟨rfl, small, by simp [zero]⟩
    · simp only [Option.bind_eq_bind, Option.bind_eq_some_iff, Prod.exists] at found
      obtain ⟨total, added, out, inner, rippled, same⟩ := found
      obtain ⟨rfl, rfl⟩ := Prod.mk.inj (Option.some.inj same)
      obtain ⟨-, rfl⟩ := longWord?_eq_some_iff.mp added
      obtain ⟨length, low, kept⟩ :=
        ih (fun other member => small other (List.mem_cons_of_mem _ member)) rippled
      have step := digit_add_carry base place wide carry
      refine ⟨by simp [length], ?_, ?_⟩
      · intro other member
        rcases List.mem_cons.mp member with rfl | member
        · have bound := Int.emod_lt_of_pos (place + carry) (by omega : (0 : Int) < base)
          omega
        · exact low other member
      · rw [List.reverse_cons, List.reverse_cons, value_append, value_append, List.length_cons,
          pow_succ]
        push_cast
        linear_combination (base : Int) * kept + step

/-- A carry is at most half of the sum it comes from. -/
theorem half_bounds {total : Int} (wide : 2 ≤ base) (fits : FitsLongWord total) :
    -2 ^ 126 ≤ total / base ∧ total / base ≤ 2 ^ 126 := by
  have large : (2 : Int) ≤ base := by omega
  obtain ⟨low, high⟩ := fits
  constructor
  · rw [Int.le_ediv_iff_mul_le (by omega)]
    nlinarith
  · rw [← Int.lt_add_one_iff, Int.ediv_lt_iff_lt_mul (by omega)]
    nlinarith

/-- Carries of half a word are added to a place without leaving the words. -/
theorem exists_ripple?_of_half (wide : 2 ≤ base) (bounded : base ≤ 2 ^ 64)
    (small : ∀ place ∈ places, place < base) (low : -2 ^ 126 ≤ carry) (high : carry ≤ 2 ^ 126) :
    ∃ left moved, ripple? base carry places = some (left, moved) := by
  induction places generalizing carry with
  | nil => exact ⟨_, _, rfl⟩
  | cons place rest ih =>
    rw [ripple?]
    split
    · exact ⟨_, _, rfl⟩
    · have digit : place < base := small place (by simp)
      have fits : FitsLongWord (place + carry) := by
        constructor <;> omega
      obtain ⟨below, above⟩ := half_bounds wide fits
      obtain ⟨left, moved, later⟩ :=
        ih (fun other member => small other (List.mem_cons_of_mem _ member)) below above
      refine ⟨left, ((place + carry) % base).toNat :: moved, ?_⟩
      simp only [longWord?_eq_some_iff.mpr ⟨fits, rfl⟩, later, Option.bind_eq_bind,
        Option.bind_some, Option.pure_def]

/-- Only the sum at the last place can leave the words. -/
theorem exists_ripple?_iff (wide : 2 ≤ base) (bounded : base ≤ 2 ^ 64)
    (small : ∀ place ∈ places, place < base) (fits : FitsLongWord carry) :
    (∃ left moved, ripple? base carry places = some (left, moved)) ↔
      ∀ last ∈ places.head?, (last : Int) + carry ≤ 2 ^ 127 - 1 := by
  cases places with
  | nil => simp [ripple?]
  | cons place rest =>
    have digit : place < base := small place (by simp)
    have later : ∀ other ∈ rest, other < base :=
      fun other member => small other (List.mem_cons_of_mem _ member)
    simp only [List.head?_cons, Option.mem_some_iff, forall_eq']
    rw [ripple?]
    split
    · rename_i zero
      exact ⟨fun _ => by omega, fun _ => ⟨_, _, rfl⟩⟩
    · constructor
      · rintro ⟨left, moved, found⟩
        simp only [Option.bind_eq_bind, Option.bind_eq_some_iff] at found
        obtain ⟨total, added, -⟩ := found
        obtain ⟨total_fits, rfl⟩ := longWord?_eq_some_iff.mp added
        exact total_fits.2
      · intro high
        have total : FitsLongWord (place + carry) := ⟨by have := fits.1; omega, high⟩
        obtain ⟨below, above⟩ := half_bounds wide total
        obtain ⟨left, moved, rippled⟩ := exists_ripple?_of_half wide bounded later below above
        refine ⟨left, ((place + carry) % base).toNat :: moved, ?_⟩
        simp only [longWord?_eq_some_iff.mpr ⟨total, rfl⟩, rippled, Option.bind_eq_bind,
          Option.bind_some, Option.pure_def]

end Ripple

/-! ## The absorption -/

/-- A debt whose weight leaves the words is larger than all places together. -/
theorem debt_outweighs {base : Nat} {carry : Int} {places : List Nat} (wide : 2 ≤ base)
    (bounded : base ≤ 2 ^ 64) (small : ∀ place ∈ places, place < base)
    (debt : carry * base < -2 ^ 127) : carry * base ^ places.length + value base places ≤ 0 := by
  -- bases are small, so a weight below the words is that of two powers at least, and places count
  -- for less than that
  have deep : carry ≤ -2 := by
    by_contra shallow
    nlinarith
  have bound := value_lt wide small
  have power : (0 : Int) < (base : Int) ^ places.length := by positivity
  have weighed : (value base places : Int) < 2 * (base : Int) ^ places.length := by
    exact_mod_cast bound
  nlinarith

/-- A debt is paid with a place unless its weight leaves the words. -/
theorem absorb?_cons_of_neg {base place : Nat} {carry : Int} (digit : place < base)
    (debt : carry < 0) (rest : List Nat) :
    absorb? base carry (place :: rest) =
      if carry * base < -2 ^ 127 then none
      else absorb? base (carry * base + (place + 1)) rest := by
  have weight : carry * base ≤ -base := by nlinarith
  rw [absorb?, if_pos debt]
  by_cases deep : carry * base < -2 ^ 127
  · have outside : longWord? (carry * base) = none :=
      longWord?_eq_none_iff.mpr fun fits => absurd fits.1 (by omega)
    rw [if_pos deep, outside]
    rfl
  · have inside : longWord? (carry * base) = some (carry * base) :=
      longWord?_eq_some_iff.mpr ⟨⟨by omega, by omega⟩, rfl⟩
    have paid : longWord? (carry * base + (place + 1)) = some (carry * base + (place + 1)) :=
      longWord?_eq_some_iff.mpr ⟨⟨by omega, by omega⟩, rfl⟩
    rw [if_neg deep, inside]
    change (longWord? (carry * base + (place + 1))).bind _ = _
    rw [paid]
    rfl

theorem absorb?_of_nonneg {base : Nat} {carry : Int} (paid : 0 ≤ carry) (places : List Nat) :
    absorb? base carry places = some (carry.toNat, places) := by
  cases places with
  | nil => rw [absorb?, if_neg (by omega)]
  | cons place rest => rw [absorb?, if_neg (by omega)]

/-- The sum of a debt and the places does not change when the first place pays. -/
theorem pay_eq (base place : Nat) (carry : Int) (rest : List Nat) :
    (carry * base + (place + 1)) * base ^ rest.length + value base rest =
      carry * base ^ (place :: rest).length + value base (place :: rest) := by
  rw [value_cons, List.length_cons, pow_succ]
  push_cast
  ring

/-- The absorption keeps the sum of the carry and the places, unless the sum is not positive. -/
theorem absorb?_value {base : Nat} (carry : Int) {places : List Nat} (wide : 2 ≤ base)
    (bounded : base ≤ 2 ^ 64) (small : ∀ place ∈ places, place < base) :
    (absorb? base carry places = none ∧ carry * base ^ places.length + value base places ≤ 0) ∨
      ∃ surplus kept, absorb? base carry places = some (surplus, kept) ∧
        (∀ place ∈ kept, place < base) ∧
        (surplus * base ^ kept.length + value base kept : Int) =
          carry * base ^ places.length + value base places := by
  induction places generalizing carry with
  | nil =>
    by_cases debt : carry < 0
    · exact .inl ⟨if_pos debt, by simpa using Int.le_of_lt debt⟩
    · refine .inr ⟨_, _, absorb?_of_nonneg (by omega) [], small, ?_⟩
      rw [Int.toNat_of_nonneg (by omega)]
  | cons place rest ih =>
    by_cases debt : carry < 0
    · rw [absorb?_cons_of_neg (small place (by simp)) debt, ← pay_eq]
      split
      · rename_i deep
        refine .inl ⟨rfl, ?_⟩
        rw [pay_eq]
        exact debt_outweighs wide bounded small deep
      · exact ih _ fun other member => small other (List.mem_cons_of_mem _ member)
    · refine .inr ⟨_, _, absorb?_of_nonneg (by omega) _, small, ?_⟩
      rw [Int.toNat_of_nonneg (by omega)]

/-! ## All passes -/

/-- Moving a numeral fails for a sum outside the words at the last place, or gives digits that
count as far as asked unless that is not above zero. -/
theorem movePlaces?_value {base : Nat} {places : List Nat} {count : Int} (wide : 2 ≤ base)
    (bounded : base ≤ 2 ^ 64) (small : ∀ place ∈ places, place < base)
    (fits : FitsLongWord count)
    (high : ∀ last ∈ places.getLast?, (last : Int) + count ≤ 2 ^ 127 - 1) :
    (movePlaces? base places count = none ∧ value base places + count ≤ 0) ∨
      ∃ moved, movePlaces? base places count = some moved ∧ (∀ place ∈ moved, place < base) ∧
        (value base moved : Int) = value base places + count := by
  have reversed : ∀ place ∈ places.reverse, place < base :=
    fun place member => small place (List.mem_reverse.mp member)
  obtain ⟨carry, rippled, found⟩ := (exists_ripple?_iff wide bounded reversed fits).mpr
    (by simpa using high)
  obtain ⟨length, low, kept⟩ := ripple?_value (by omega) reversed found
  have lowReversed : ∀ place ∈ rippled.reverse, place < base :=
    fun place member => low place (List.mem_reverse.mp member)
  have sum : carry * base ^ rippled.reverse.length + value base rippled.reverse =
      value base places + count := by
    rw [List.length_reverse, length, Int.add_comm, kept, List.reverse_reverse]
  rw [movePlaces?, found]
  rcases absorb?_value carry wide bounded lowReversed with
    ⟨absorbed, under⟩ | ⟨surplus, rest, absorbed, digits, same⟩
  · refine .inl ⟨?_, sum ▸ under⟩
    simp [absorbed]
  · refine .inr ⟨numeral base surplus ++ rest, by simp [absorbed], ?_, ?_⟩
    · intro place member
      rcases List.mem_append.mp member with grown | member
      · exact lt_of_mem_numeral (by omega) grown
      · exact digits place member
    · rw [value_append_append, value_numeral, ← sum, ← same]
      push_cast
      rfl

/-- A sum outside the words at the last place is not carried on. -/
theorem movePlaces?_eq_none {base : Nat} {places : List Nat} {count : Int} (wide : 2 ≤ base)
    (bounded : base ≤ 2 ^ 64) (small : ∀ place ∈ places, place < base)
    (fits : FitsLongWord count) {last : Nat} (ends : places.getLast? = some last)
    (high : 2 ^ 127 - 1 < (last : Int) + count) : movePlaces? base places count = none := by
  have reversed : ∀ place ∈ places.reverse, place < base :=
    fun place member => small place (List.mem_reverse.mp member)
  cases found : ripple? base count places.reverse with
  | none => simp [movePlaces?, found]
  | some result =>
    have low := (exists_ripple?_iff wide bounded reversed fits).mp ⟨_, _, found⟩ last
      (by simpa using ends)
    omega

end Numbering.Alphabet
