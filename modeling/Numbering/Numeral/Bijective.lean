/-! # Bijective numerals

A positional system without a zero: in base `b` the digits stand for `1` to `b`, so every natural
number has exactly one numeral, and zero has the empty one. Digits are kept one below what they
stand for, most significant first, so that they index an ordered list of `b` letters.
-/

namespace Numbering.Bijective

def value (base : Nat) (digits : List Nat) : Nat :=
  digits.foldl (fun number digit => number * base + (digit + 1)) 0

def numeral (base number : Nat) : List Nat :=
  if number = 0 then []
  else numeral base ((number - 1) / base) ++ [(number - 1) % base]
termination_by number
decreasing_by exact Nat.lt_of_le_of_lt (Nat.div_le_self _ _) (by omega)

theorem value_append (base : Nat) (digits : List Nat) (digit : Nat) :
    value base (digits ++ [digit]) = value base digits * base + (digit + 1) := by
  simp [value]

/-- Reading the numeral of a number gives the number. -/
theorem value_numeral (base number : Nat) : value base (numeral base number) = number := by
  fun_induction numeral base number with
  | case1 => rfl
  | case2 number positive ih =>
    rw [value_append, ih]
    have split := Nat.div_add_mod' (number - 1) base
    omega

/-- The digits of a numeral are below its base. -/
theorem lt_of_mem_numeral {base number digit : Nat} (wide : 0 < base)
    (member : digit ∈ numeral base number) : digit < base := by
  fun_induction numeral base number with
  | case1 => simp at member
  | case2 number positive ih =>
    rcases List.mem_append.mp member with early | last
    · exact ih early
    · rw [List.mem_singleton.mp last]
      exact Nat.mod_lt _ wide

end Numbering.Bijective
