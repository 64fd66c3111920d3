import Numbering.Numeral.Bijective
import Numbering.Proofs.Numeral.Order

/-! # Bijective numerals and their numbers

The value of a numeral is the sum of what its digits stand for, each times the power of the base
that its place gives it (`value_eq_weightedSum`). Digits below the base are determined by their value,
since `numeral` gives them back from it, and a numeral of some length stays below twice the power of
that length. Numerals stand in the order of their values if shorter ones come first and those of one
length go digit by digit (`shortlex_iff_value_lt`).
-/

namespace Numbering.Bijective

/-- The sum of what the digits stand for, each times the base to the number of digits behind it. -/
def weightedSum (base : Nat) : List Nat → Nat
  | [] => 0
  | digit :: rest => (digit + 1) * base ^ rest.length + weightedSum base rest

@[simp] theorem value_nil (base : Nat) : value base [] = 0 := rfl

/-- Its digits are those of a positional numeral, each one higher. -/
theorem value_eq_value_map (base : Nat) (digits : List Nat) :
    value base digits = Numeral.value base (digits.map (· + 1)) := by
  rw [value, Numeral.value, List.foldl_map]

theorem value_append_append (base : Nat) (front back : List Nat) :
    value base (front ++ back) = value base front * base ^ back.length + value base back := by
  rw [value_eq_value_map, List.map_append, Numeral.value_append_append, List.length_map,
    ← value_eq_value_map, ← value_eq_value_map]

theorem value_cons (base digit : Nat) (rest : List Nat) :
    value base (digit :: rest) = (digit + 1) * base ^ rest.length + value base rest := by
  rw [value_eq_value_map, List.map_cons, Numeral.value_cons, List.length_map, ← value_eq_value_map]

theorem value_eq_weightedSum (base : Nat) (digits : List Nat) :
    value base digits = weightedSum base digits := by
  induction digits with
  | nil => rfl
  | cons digit rest ih => rw [value_cons, weightedSum, ih]

variable {base : Nat} {digits : List Nat}

/-- The digits of a numeral are given back by its value. -/
theorem numeral_value (small : ∀ digit ∈ digits, digit < base) :
    numeral base (value base digits) = digits := by
  -- from the last digit, which is the one that a numeral splits off
  induction digits using List.reverseRecOn with
  | nil => rw [value_nil, numeral, if_pos rfl]
  | append_singleton front last ih =>
    have low : last < base := small last (by simp)
    have before : value base front * base + last + 1 - 1 = value base front * base + last := rfl
    have quotient : (value base front * base + last) / base = value base front := by
      rw [Nat.mul_comm, Nat.mul_add_div (by omega), Nat.div_eq_of_lt low, Nat.add_zero]
    have remainder : (value base front * base + last) % base = last := by
      rw [Nat.mul_comm, Nat.mul_add_mod, Nat.mod_eq_of_lt low]
    rw [value_append, numeral, if_neg (by omega), ← Nat.add_assoc, before, quotient, remainder,
      ih fun digit member => small digit (List.mem_append_left _ member)]

theorem eq_of_value_eq {others : List Nat} (small : ∀ digit ∈ digits, digit < base)
    (small' : ∀ digit ∈ others, digit < base) (same : value base digits = value base others) :
    digits = others := by
  rw [← numeral_value small, same, numeral_value small']

theorem value_pos (wide : 0 < base) (filled : digits ≠ []) : 0 < value base digits := by
  cases digits with
  | nil => exact absurd rfl filled
  | cons digit rest =>
    have leading : 0 < (digit + 1) * base ^ rest.length :=
      Nat.mul_pos (Nat.succ_pos digit) (Nat.pow_pos wide)
    rw [value_cons]
    omega

/-- A digit stands for no more than the base, so a numeral stays below twice its leading power. -/
theorem value_lt (wide : 2 ≤ base) (small : ∀ digit ∈ digits, digit < base) :
    value base digits < 2 * base ^ digits.length := by
  induction digits with
  | nil => simp
  | cons digit rest ih =>
    have low : digit + 1 ≤ base := small digit (by simp)
    have later := ih fun other member => small other (List.mem_cons_of_mem _ member)
    have first : (digit + 1) * base ^ rest.length ≤ base * base ^ rest.length :=
      Nat.mul_le_mul_right _ low
    have room : 2 * base ^ rest.length ≤ base * base ^ rest.length := Nat.mul_le_mul_right _ wide
    rw [value_cons, List.length_cons, Nat.pow_succ]
    calc (digit + 1) * base ^ rest.length + value base rest
        < base * base ^ rest.length + 2 * base ^ rest.length := by omega
      _ ≤ 2 * (base * base ^ rest.length) := by omega
      _ = 2 * (base ^ rest.length * base) := by rw [Nat.mul_comm base]

/-! ## The order of numerals -/

theorem value_replicate_succ (base length : Nat) :
    value base (List.replicate (length + 1) 0) =
      base ^ length + value base (List.replicate length 0) := by
  rw [List.replicate_succ, value_cons, List.length_replicate, Nat.zero_add, Nat.one_mul]

/-- Each digit stands for one more than it does in a positional numeral. -/
theorem value_eq_add (base : Nat) (digits : List Nat) :
    value base digits =
      Numeral.value base digits + value base (List.replicate digits.length 0) := by
  induction digits using List.reverseRecOn with
  | nil => rfl
  | append_singleton front digit ih =>
    rw [value_append, Numeral.value_append, ih, List.length_append, List.length_singleton,
      List.replicate_succ', value_append]
    ring

/-- Of the numerals of one length the one of zeros is the least. -/
theorem value_replicate_le (base : Nat) (digits : List Nat) :
    value base (List.replicate digits.length 0) ≤ value base digits := by
  rw [value_eq_add base digits]
  exact Nat.le_add_left _ _

/-- A numeral is below every numeral with one more digit. -/
theorem value_lt_replicate (small : ∀ digit ∈ digits, digit < base) :
    value base digits < value base (List.replicate (digits.length + 1) 0) := by
  rw [value_eq_add, value_replicate_succ]
  exact Nat.add_lt_add_right (Numeral.value_lt_pow small) _

theorem value_replicate_mono (base : Nat) {short long : Nat} (le : short ≤ long) :
    value base (List.replicate short 0) ≤ value base (List.replicate long 0) := by
  induction le with
  | refl => exact Nat.le_refl _
  | step _ ih =>
    rw [value_replicate_succ]
    omega

theorem value_lt_of_length_lt {others : List Nat} (small : ∀ digit ∈ digits, digit < base)
    (shorter : digits.length < others.length) : value base digits < value base others :=
  calc value base digits
      < value base (List.replicate (digits.length + 1) 0) := value_lt_replicate small
    _ ≤ value base (List.replicate others.length 0) := value_replicate_mono base shorter
    _ ≤ value base others := value_replicate_le base others

theorem value_lt_of_lex {others : List Nat} (small : ∀ digit ∈ digits, digit < base)
    (level : digits.length = others.length) (before : List.Lex (· < ·) digits others) :
    value base digits < value base others := by
  rw [value_eq_add base digits, value_eq_add base others, level]
  exact Nat.add_lt_add_right (Numeral.value_lt_of_lex small level before) _

/-- Numerals stand in the order of their values. -/
theorem shortlex_iff_value_lt {others : List Nat} (small : ∀ digit ∈ digits, digit < base)
    (small' : ∀ digit ∈ others, digit < base) :
    List.Shortlex (· < ·) digits others ↔ value base digits < value base others := by
  have forward {first second : List Nat} (small : ∀ digit ∈ first, digit < base)
      (before : List.Shortlex (· < ·) first second) : value base first < value base second := by
    rcases List.shortlex_def.mp before with shorter | ⟨level, before⟩
    · exact value_lt_of_length_lt small shorter
    · exact value_lt_of_lex small level before
  refine ⟨forward small, fun lower => ?_⟩
  by_contra after
  by_cases before : List.Shortlex (· < ·) others digits
  · exact Nat.lt_asymm lower (forward small' before)
  · rw [Std.Trichotomous.trichotomous digits others after before] at lower
    exact Nat.lt_irrefl _ lower

end Numbering.Bijective
