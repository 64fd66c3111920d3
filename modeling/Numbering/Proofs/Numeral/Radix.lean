import Mathlib.Data.List.Induction
import Numbering.Numeral
import Numbering.Proofs.Traversal

/-! # Numerals in a radix and how they are read

A number has one numeral in each base: one or more digits below the base, none of them a zero in
front of others (`isNumeral_iff`). A text of the characters `0` to `9` and `a` to `z` is read digit
by digit, with a sign in front if there is one. Zeros between the sign and a numeral change nothing
(`readInteger?_signed`), and a number in decimal is read back (`readDecimal_decimal`).
-/

namespace Numbering.Numeral

/-- The digits that write a number in a base. -/
structure IsNumeral (base number : Nat) (digits : List Nat) : Prop where
  filled : digits ≠ []
  small : ∀ digit ∈ digits, digit < base
  trimmed : digits.head? = some 0 → digits = [0]
  sum : value base digits = number

variable {base number radix : Nat} {digits : List Nat}

theorem value_append (base : Nat) (digits : List Nat) (digit : Nat) :
    value base (digits ++ [digit]) = value base digits * base + digit := by
  simp [value]

theorem value_pos (wide : 0 < base) (filled : digits ≠ []) (leading : digits.head? ≠ some 0) :
    0 < value base digits := by
  induction digits using List.reverseRecOn with
  | nil => exact absurd rfl filled
  | append_singleton front last ih =>
    rw [value_append]
    cases front with
    | nil =>
      have positive : last ≠ 0 := by simpa using leading
      omega
    | cons first rest =>
      have front := ih (List.cons_ne_nil _ _) (by simpa using leading)
      have scaled := Nat.mul_pos front wide
      omega

theorem isNumeral_places (wide : 2 ≤ base) (number : Nat) :
    IsNumeral base number (places base wide number) := by
  refine ⟨?_, ?_, ?_, value_places base wide number⟩
  · rw [places]
    split <;> simp
  · fun_induction places base wide number with
    | case1 number small => simpa using small
    | case2 number large ih =>
      intro digit member
      rcases List.mem_append.mp member with early | last
      · exact ih digit early
      · rw [List.mem_singleton.mp last]
        exact Nat.mod_lt _ (by omega)
  · fun_induction places base wide number with
    | case1 number small => simp
    | case2 number large ih =>
      intro zero
      have quotient : 0 < number / base := Nat.div_pos (by omega) (by omega)
      have whole := value_places base wide (number / base)
      cases front : places base wide (number / base) with
      | nil =>
        rw [front] at whole
        exact absurd whole.symm (Nat.ne_of_gt quotient)
      | cons first rest =>
        rw [front] at zero ih whole
        have alone := ih (by simpa using zero)
        rw [alone] at whole
        have empty : value base [0] = 0 := by simp [value]
        omega

theorem IsNumeral.eq_places (wide : 2 ≤ base) (numeral : IsNumeral base number digits) :
    digits = places base wide number := by
  -- from the last digit, which is the one that `places` splits off
  induction digits using List.reverseRecOn generalizing number with
  | nil => exact absurd rfl numeral.filled
  | append_singleton front last ih =>
    obtain ⟨-, small, trimmed, rfl⟩ := numeral
    have low : last < base := small last (by simp)
    rw [value_append]
    cases front with
    | nil =>
      rw [places]
      simp [value, low]
    | cons first rest =>
      have leading : (first :: rest).head? ≠ some 0 := by
        intro zero
        have alone := congrArg List.length (trimmed (by simpa using zero))
        simp at alone
      have positive := value_pos (Nat.lt_of_lt_of_le Nat.zero_lt_two wide) (List.cons_ne_nil _ _)
        leading
      have large := Nat.le_mul_of_pos_left base positive
      have quotient : (value base (first :: rest) * base + last) / base =
          value base (first :: rest) := by
        rw [Nat.mul_comm, Nat.mul_add_div (by omega), Nat.div_eq_of_lt low, Nat.add_zero]
      have remainder : (value base (first :: rest) * base + last) % base = last := by
        rw [Nat.mul_comm, Nat.mul_add_mod, Nat.mod_eq_of_lt low]
      have front : IsNumeral base (value base (first :: rest)) (first :: rest) :=
        ⟨List.cons_ne_nil _ _, fun digit member => small digit (List.mem_append_left _ member),
          fun zero => absurd zero leading, rfl⟩
      rw [places, if_neg (by omega), quotient, remainder, ← ih front]

/-- A number has one numeral. -/
theorem isNumeral_iff (wide : 2 ≤ base) (number : Nat) (digits : List Nat) :
    IsNumeral base number digits ↔ digits = places base wide number := by
  constructor
  · exact IsNumeral.eq_places wide
  · rintro rfl
    exact isNumeral_places wide number

theorem value_replicate_append (base count : Nat) (digits : List Nat) :
    value base (List.replicate count 0 ++ digits) = value base digits := by
  induction count with
  | zero => rfl
  | succ count ih =>
    rw [List.replicate_succ, List.cons_append, value, List.foldl_cons, Nat.zero_mul]
    exact ih

/-! ## Reading -/

def digitCharacters : List Char :=
  ['0', '1', '2', '3', '4', '5', '6', '7', '8', '9', 'a', 'b', 'c', 'd', 'e', 'f', 'g', 'h', 'i',
    'j', 'k', 'l', 'm', 'n', 'o', 'p', 'q', 'r', 's', 't', 'u', 'v', 'w', 'x', 'y', 'z']

/-- What a character stands for in a radix. -/
def digit? (radix : Nat) (c : Char) : Option Nat :=
  (digitCharacters.idxOf? c).filter (· < radix)

/-- The number that one or more digits write. -/
def readNatural? (radix : Nat) (text : Text) : Option Nat :=
  if text = [] then none else (text.mapM (digit? radix)).map (value radix)

/-- The integer that digits write, with a sign in front if there is one. -/
def readInteger? (radix : Nat) : Text → Option Int
  | '+' :: text => (readNatural? radix text).map Int.ofNat
  | '-' :: text => (readNatural? radix text).map fun size => -Int.ofNat size
  | text => (readNatural? radix text).map Int.ofNat

def Unsigned (text : Text) : Prop :=
  ∀ c ∈ text.head?, c ≠ '+' ∧ c ≠ '-'

theorem idxOf?_digitChar : ∀ digit < 36, digitCharacters.idxOf? (digitChar digit) = some digit := by
  decide

theorem digitChar_ne_sign : ∀ digit < 36, digitChar digit ≠ '+' ∧ digitChar digit ≠ '-' := by
  decide

theorem digit?_digitChar {digit : Nat} (narrow : radix ≤ 36) (small : digit < radix) :
    digit? radix (digitChar digit) = some digit := by
  rw [digit?, idxOf?_digitChar digit (by omega), Option.filter_some_pos (by simpa using small)]

theorem readNatural?_map_digitChar (narrow : radix ≤ 36) (filled : digits ≠ [])
    (small : ∀ digit ∈ digits, digit < radix) :
    readNatural? radix (digits.map digitChar) = some (value radix digits) := by
  have each : (digits.map digitChar).mapM (digit? radix) = some digits := by
    rw [mapM_eq_some_iff, List.forall₂_map_left_iff, List.forall₂_same]
    exact fun digit member => digit?_digitChar narrow (small digit member)
  rw [readNatural?, if_neg (by simpa using filled), each, Option.map_some]

theorem unsigned_map_digitChar (narrow : radix ≤ 36) (small : ∀ digit ∈ digits, digit < radix) :
    Unsigned (digits.map digitChar) := by
  intro c first
  obtain ⟨digit, member, rfl⟩ := List.mem_map.mp (List.mem_of_mem_head? first)
  have below := small digit member
  exact digitChar_ne_sign digit (by omega)

theorem readInteger?_of_unsigned {text : Text} (unsigned : Unsigned text) :
    readInteger? radix text = (readNatural? radix text).map Int.ofNat := by
  unfold readInteger?
  split
  · exact absurd rfl (unsigned '+' rfl).1
  · exact absurd rfl (unsigned '-' rfl).2
  · rfl

/-- A sign, zeros and a numeral are read as the integer of that sign and size. -/
theorem readInteger?_signed (narrow : radix ≤ 36) {number : Int}
    (numeral : IsNumeral radix number.natAbs digits) (plus : Bool) (zeros : Nat) :
    readInteger? radix
      ((if number < 0 then ['-'] else if plus then ['+'] else []) ++
        List.replicate zeros '0' ++ digits.map digitChar) = some number := by
  obtain ⟨filled, small, -, sum⟩ := numeral
  have wide : 0 < radix := by
    obtain ⟨first, member⟩ := List.exists_mem_of_ne_nil digits filled
    exact Nat.zero_lt_of_lt (small first member)
  have padded_small : ∀ digit ∈ List.replicate zeros 0 ++ digits, digit < radix := by
    intro digit member
    rcases List.mem_append.mp member with zero | member
    · rwa [List.eq_of_mem_replicate zero]
    · exact small digit member
  have padded : List.replicate zeros '0' ++ digits.map digitChar =
      (List.replicate zeros 0 ++ digits).map digitChar := by
    rw [List.map_append, List.map_replicate]
    rfl
  have size : readNatural? radix (List.replicate zeros '0' ++ digits.map digitChar) =
      some number.natAbs := by
    rw [padded, readNatural?_map_digitChar narrow (by simp [filled]) padded_small,
      value_replicate_append, sum]
  have unsigned : Unsigned (List.replicate zeros '0' ++ digits.map digitChar) :=
    padded ▸ unsigned_map_digitChar narrow padded_small
  rw [List.append_assoc]
  split_ifs with negative signed
  · rw [List.singleton_append, readInteger?, size, Option.map_some, Int.ofNat_eq_natCast,
      Int.ofNat_natAbs_of_nonpos (by omega), Int.neg_neg]
  · rw [List.singleton_append, readInteger?, size, Option.map_some, Int.ofNat_eq_natCast,
      Int.natAbs_of_nonneg (by omega)]
  · rw [List.nil_append, readInteger?_of_unsigned unsigned, size, Option.map_some,
      Int.ofNat_eq_natCast, Int.natAbs_of_nonneg (by omega)]

/-! ## Decimal literals -/

theorem digitChar_isDigit : ∀ digit < 10, (digitChar digit).isDigit = true ∧
    (digitChar digit).toNat - '0'.toNat = digit := by
  decide

theorem decimal_of_lt {digit : Nat} (low : digit < 10) : decimal digit = [digitChar digit] := by
  rw [decimal, places, if_pos low, List.map_singleton]

theorem decimal_ne_nil (number : Nat) : decimal number ≠ [] := by
  simpa [decimal] using (isNumeral_places (by decide) number).filled

theorem isDigit_of_mem_decimal {c : Char} (member : c ∈ decimal number) : c.isDigit = true := by
  obtain ⟨digit, inside, rfl⟩ := List.mem_map.mp member
  exact (digitChar_isDigit digit ((isNumeral_places (by decide) number).small digit inside)).1

/-- Zeros in front change nothing. -/
theorem readDecimal_zeros_append (count : Nat) (digits : Text) :
    readDecimal (List.replicate count '0' ++ digits) = readDecimal digits := by
  rw [readDecimal, List.map_append, List.map_replicate]
  exact value_replicate_append 10 count _

/-- A number in decimal is read back. -/
theorem readDecimal_decimal (number : Nat) : readDecimal (decimal number) = number := by
  have back : (decimal number).map (fun c => c.toNat - '0'.toNat) =
      places 10 (by decide) number := by
    rw [decimal, List.map_map]
    refine (List.map_congr_left fun digit inside => ?_).trans (List.map_id _)
    exact (digitChar_isDigit digit ((isNumeral_places (by decide) number).small digit inside)).2
  rw [readDecimal, back, value_places]

end Numbering.Numeral
