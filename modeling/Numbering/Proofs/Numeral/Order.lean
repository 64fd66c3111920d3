import Mathlib.Data.List.Shortlex
import Mathlib.Tactic.Ring
import Numbering.Proofs.Numeral.Radix

/-! # Numerals in order

A number of some length in a base is below the power of that length, and at least the power of one less
if it does not begin with zero. So longer numerals stand for larger numbers, and of two that are equally
long the first different digit decides (`shortlex_iff_lt`). The texts of numbers in a radix stand in the
same order, and give the numbers back.
-/

namespace Numbering.Numeral

variable {base number other radix : Nat} {digits others : List Nat}

/-! ## Digits by their places -/

theorem value_append_append (base : Nat) (front back : List Nat) :
    value base (front ++ back) = value base front * base ^ back.length + value base back := by
  induction back using List.reverseRecOn with
  | nil => simp [value]
  | append_singleton back digit ih =>
    rw [← List.append_assoc, value_append, value_append, ih, List.length_append,
      List.length_singleton]
    ring

theorem value_cons (base digit : Nat) (rest : List Nat) :
    value base (digit :: rest) = digit * base ^ rest.length + value base rest := by
  have single : value base [digit] = digit := by simp [value]
  rw [← List.singleton_append, value_append_append, single]

theorem value_lt_pow (small : ∀ digit ∈ digits, digit < base) :
    value base digits < base ^ digits.length := by
  induction digits with
  | nil => simp [value]
  | cons digit rest ih =>
    have low : digit + 1 ≤ base := small digit List.mem_cons_self
    have later := ih fun other member => small other (List.mem_cons_of_mem _ member)
    have leading : (digit + 1) * base ^ rest.length ≤ base ^ (rest.length + 1) := by
      rw [Nat.pow_succ, Nat.mul_comm (base ^ rest.length)]
      exact Nat.mul_le_mul_right _ low
    rw [Nat.succ_mul] at leading
    rw [value_cons, List.length_cons]
    omega

theorem pow_le_value {digit : Nat} (positive : digit ≠ 0) (rest : List Nat) :
    base ^ rest.length ≤ value base (digit :: rest) := by
  have leading := Nat.le_mul_of_pos_left (base ^ rest.length) (Nat.pos_of_ne_zero positive)
  rw [value_cons]
  omega

/-! ## The order of numerals -/

/-- Of two lists of digits of one length, the one with the smaller digit at the first place where they
differ has the smaller value. -/
theorem value_lt_of_lex (small : ∀ digit ∈ digits, digit < base)
    (level : digits.length = others.length) (before : List.Lex (· < ·) digits others) :
    value base digits < value base others := by
  induction before with
  | nil => simp at level
  | @cons digit rest rest' _ ih =>
    have lengths := Nat.succ.inj level
    have later := ih (fun other member => small other (List.mem_cons_of_mem _ member)) lengths
    rw [value_cons, value_cons, lengths]
    omega
  | @rel digit rest digit' rest' lower =>
    have lengths : rest.length = rest'.length := Nat.succ.inj level
    -- what the later digits can add is less than one at the first digit
    have later := value_lt_pow fun other member => small other (List.mem_cons_of_mem _ member)
    have leading : (digit + 1) * base ^ rest'.length ≤ digit' * base ^ rest'.length :=
      Nat.mul_le_mul_right _ lower
    rw [lengths] at later
    rw [Nat.succ_mul] at leading
    rw [value_cons, value_cons, lengths]
    omega

theorem IsNumeral.lt_of_length_lt (numeral : IsNumeral base number digits)
    (numeral' : IsNumeral base other others) (shorter : digits.length < others.length) :
    number < other := by
  obtain ⟨filled, small, -, rfl⟩ := numeral
  obtain ⟨filled', small', trimmed, rfl⟩ := numeral'
  obtain ⟨digit, rest, rfl⟩ := List.exists_cons_of_ne_nil filled'
  have some := List.length_pos_iff.mpr filled
  have wide : 0 < base := Nat.zero_lt_of_lt (small' digit List.mem_cons_self)
  have positive : digit ≠ 0 := by
    rintro rfl
    have alone := congrArg List.length (trimmed rfl)
    simp only [List.length_cons, List.length_nil] at alone shorter
    omega
  calc value base digits
      < base ^ digits.length := value_lt_pow small
    _ ≤ base ^ rest.length := Nat.pow_le_pow_right wide (Nat.le_of_lt_succ shorter)
    _ ≤ value base (digit :: rest) := pow_le_value positive rest

theorem IsNumeral.lt_of_shortlex (numeral : IsNumeral base number digits)
    (numeral' : IsNumeral base other others) (before : List.Shortlex (· < ·) digits others) :
    number < other := by
  rcases List.shortlex_def.mp before with shorter | ⟨level, before⟩
  · exact numeral.lt_of_length_lt numeral' shorter
  · rw [← numeral.sum, ← numeral'.sum]
    exact value_lt_of_lex numeral.small level before

/-- Numerals stand in the order of their numbers. -/
theorem shortlex_iff_lt (numeral : IsNumeral base number digits)
    (numeral' : IsNumeral base other others) :
    List.Shortlex (· < ·) digits others ↔ number < other := by
  refine ⟨numeral.lt_of_shortlex numeral', fun lower => ?_⟩
  by_contra after
  by_cases before : List.Shortlex (· < ·) others digits
  · exact Nat.lt_asymm lower (numeral'.lt_of_shortlex numeral before)
  · have same := Std.Trichotomous.trichotomous digits others after before
    rw [← numeral.sum, ← numeral'.sum, same] at lower
    exact Nat.lt_irrefl _ lower

/-! ## The order of texts -/

/-- A character stands for a smaller digit than another. -/
def DigitBelow (radix : Nat) (first second : Char) : Prop :=
  ∃ low ∈ digit? radix first, ∃ high ∈ digit? radix second, low < high

theorem digitBelow_digitChar_iff {low high : Nat} (narrow : radix ≤ 36) (small : low < radix)
    (small' : high < radix) : DigitBelow radix (digitChar low) (digitChar high) ↔ low < high := by
  simp [DigitBelow, digit?_digitChar narrow small, digit?_digitChar narrow small']

theorem digitChar_inj {digit digit' : Nat} (narrow : radix ≤ 36) (small : digit < radix)
    (small' : digit' < radix) : digitChar digit = digitChar digit' ↔ digit = digit' := by
  refine ⟨fun same => ?_, congrArg _⟩
  have back := digit?_digitChar narrow small
  rw [same, digit?_digitChar narrow small'] at back
  exact (Option.some.inj back).symm

theorem lex_map_digitChar_iff (narrow : radix ≤ 36) (small : ∀ digit ∈ digits, digit < radix)
    (small' : ∀ digit ∈ others, digit < radix) :
    List.Lex (DigitBelow radix) (digits.map digitChar) (others.map digitChar) ↔
      List.Lex (· < ·) digits others := by
  induction digits generalizing others with
  | nil => cases others <;> simp
  | cons digit rest ih =>
    cases others with
    | nil => simp
    | cons digit' rest' =>
      obtain ⟨low, later⟩ := List.forall_mem_cons.mp small
      obtain ⟨low', later'⟩ := List.forall_mem_cons.mp small'
      rw [List.map_cons, List.map_cons, List.cons_lex_cons_iff, List.cons_lex_cons_iff,
        digitBelow_digitChar_iff narrow low low', digitChar_inj narrow low low', ih later later']

theorem shortlex_map_digitChar_iff (narrow : radix ≤ 36) (small : ∀ digit ∈ digits, digit < radix)
    (small' : ∀ digit ∈ others, digit < radix) :
    List.Shortlex (DigitBelow radix) (digits.map digitChar) (others.map digitChar) ↔
      List.Shortlex (· < ·) digits others := by
  rw [List.shortlex_def, List.shortlex_def, List.length_map, List.length_map,
    lex_map_digitChar_iff narrow small small']

theorem toRadix?_eq_none_iff : toRadix? radix number = none ↔ ¬ (2 ≤ radix ∧ radix ≤ 36) := by
  simp [toRadix?]

/-- What is written in a radix is the one numeral of the number. -/
theorem exists_isNumeral_of_toRadix? {text : Text} (written : toRadix? radix number = some text) :
    radix ≤ 36 ∧ ∃ digits, IsNumeral radix number digits ∧ text = digits.map digitChar := by
  unfold toRadix? at written
  split_ifs at written with bounds
  exact ⟨bounds.2, _, isNumeral_places bounds.1 number, (Option.some.inj written).symm⟩

theorem getElem?_digitCharacters : ∀ digit < 36, digitCharacters[digit]? = some (digitChar digit) := by
  decide

/-- The digits of a radix are the first of the digit characters. -/
theorem mem_take_digitCharacters {digit : Nat} (narrow : radix ≤ 36) (small : digit < radix) :
    digitChar digit ∈ digitCharacters.take radix := by
  have here := getElem?_digitCharacters digit (by omega)
  rw [← List.getElem?_take_of_lt small] at here
  exact List.mem_of_getElem? here

/-- A number has no zero in front of its digits, unless it is zero itself. -/
theorem IsNumeral.eq_zero_of_head? (numeral : IsNumeral radix number digits) (narrow : radix ≤ 36)
    (zero : (digits.map digitChar).head? = some '0') :
    number = 0 ∧ digits.map digitChar = ['0'] := by
  obtain ⟨-, small, trimmed, rfl⟩ := numeral
  rw [List.head?_map, Option.map_eq_some_iff] at zero
  obtain ⟨digit, first, same⟩ := zero
  have low := small digit (List.mem_of_mem_head? first)
  obtain rfl : digit = 0 := (digitChar_inj narrow low (Nat.zero_lt_of_lt low)).mp same
  rw [trimmed first]
  exact ⟨by simp [value], rfl⟩

/-- What is written in a radix is read back. -/
theorem readNatural?_of_toRadix? {text : Text} (written : toRadix? radix number = some text) :
    readNatural? radix text = some number := by
  obtain ⟨narrow, digits, numeral, rfl⟩ := exists_isNumeral_of_toRadix? written
  rw [readNatural?_map_digitChar narrow numeral.filled numeral.small, numeral.sum]

theorem eq_iff_of_toRadix? {text text' : Text} (written : toRadix? radix number = some text)
    (written' : toRadix? radix other = some text') : text = text' ↔ number = other := by
  constructor
  · rintro rfl
    have back := readNatural?_of_toRadix? written
    rw [readNatural?_of_toRadix? written'] at back
    exact (Option.some.inj back).symm
  · rintro rfl
    exact Option.some.inj (written.symm.trans written')

/-- A number is written in a radix between two and thirty-six and in no other, with digits of that radix
from which it is read, and without a zero in front. The texts of two numbers are equal only if the numbers
are, and of two numbers the smaller has the shorter text, or of two texts of one length the one that first
differs by a smaller digit. -/
theorem toRadix?_in_order (radix : Nat) :
    (∀ number, toRadix? radix number = none ↔ ¬ (2 ≤ radix ∧ radix ≤ 36)) ∧
      (∀ number text, toRadix? radix number = some text →
        text ≠ [] ∧ (∀ c ∈ text, c ∈ digitCharacters.take radix) ∧
          (text.head? = some '0' → number = 0 ∧ text = ['0']) ∧
          readNatural? radix text = some number) ∧
      ∀ first second text other, toRadix? radix first = some text →
        toRadix? radix second = some other →
          (text = other ↔ first = second) ∧
            (first < second ↔ List.Shortlex (DigitBelow radix) text other) := by
  refine ⟨fun number => toRadix?_eq_none_iff, fun number text written => ?_,
    fun first second text other written written' => ⟨eq_iff_of_toRadix? written written', ?_⟩⟩
  · have reads := readNatural?_of_toRadix? written
    obtain ⟨narrow, digits, numeral, rfl⟩ := exists_isNumeral_of_toRadix? written
    refine ⟨by simpa using numeral.filled, fun c member => ?_, numeral.eq_zero_of_head? narrow, reads⟩
    obtain ⟨digit, inside, rfl⟩ := List.mem_map.mp member
    exact mem_take_digitCharacters narrow (numeral.small digit inside)
  · obtain ⟨narrow, digits, numeral, rfl⟩ := exists_isNumeral_of_toRadix? written
    obtain ⟨-, digits', numeral', rfl⟩ := exists_isNumeral_of_toRadix? written'
    rw [shortlex_map_digitChar_iff narrow numeral.small numeral'.small,
      shortlex_iff_lt numeral numeral']

/-- In hexadecimal `ff` comes in front of the longer `100`, and `9f` in front of `a0`. -/
theorem toRadix?_in_order_hexadecimal :
    toRadix? 16 255 = some ['f', 'f'] ∧ toRadix? 16 256 = some ['1', '0', '0'] ∧
      List.Shortlex (DigitBelow 16) ['f', 'f'] ['1', '0', '0'] ∧
      List.Shortlex (DigitBelow 16) ['9', 'f'] ['a', '0'] ∧
      readNatural? 16 ['1', '0', '0'] = some 256 ∧ toRadix? 37 256 = none := by
  have low : toRadix? 16 255 = some ['f', 'f'] := by simp [toRadix?, places, digitChar]
  have high : toRadix? 16 256 = some ['1', '0', '0'] := by simp [toRadix?, places, digitChar]
  have low' : toRadix? 16 0x9f = some ['9', 'f'] := by simp [toRadix?, places, digitChar]
  have high' : toRadix? 16 0xa0 = some ['a', '0'] := by simp [toRadix?, places, digitChar]
  obtain ⟨-, reads, ordered⟩ := toRadix?_in_order 16
  exact ⟨low, high, (ordered _ _ _ _ low high).2.mp (by decide),
    (ordered _ _ _ _ low' high').2.mp (by decide), (reads _ _ high).2.2.2,
    ((toRadix?_in_order 37).1 256).mpr (by decide)⟩

end Numbering.Numeral
