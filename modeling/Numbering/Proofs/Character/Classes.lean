import Mathlib.Data.List.Basic
import Numbering.Character.Alphabetic
import Numbering.Text

/-! # Classes of characters that do not meet

White space, letters, digits and the marks of written expressions are told apart by one character.
The classes given by ranges are finite lists of code points (`RangeSet.mem_points_of_covers`), so
what holds of all their characters is decided by going through the points.
-/

namespace Numbering.Character

def RangeSet.points (ranges : RangeSet) : List Nat :=
  ranges.flatMap fun (first, last) => List.range' first (last + 1 - first)

theorem RangeSet.mem_points_of_covers {ranges : RangeSet} {point : Nat}
    (covered : RangeSet.covers ranges point = true) : point ∈ RangeSet.points ranges := by
  obtain ⟨⟨first, last⟩, member, low, high⟩ := RangeSet.exists_range_of_covers covered
  dsimp only at low high
  exact List.mem_flatMap.mpr ⟨_, member, List.mem_range'_1.mpr ⟨low, by omega⟩⟩

/-- What holds of the white space points holds of all white space. -/
theorem of_isWhiteSpace (property : Char → Bool)
    (all : (RangeSet.points whiteSpaceRanges).all (property <| Char.ofNat ·) = true) {c : Char}
    (blank : isWhiteSpace c = true) : property c = true := by
  have member := RangeSet.mem_points_of_covers blank
  simpa using List.all_eq_true.mp all c.toNat member

theorem isWordLetter_of_isWhiteSpace {c : Char} (blank : isWhiteSpace c = true) :
    isWordLetter c = false := by
  have none : (RangeSet.points whiteSpaceRanges).all
      (fun point => !isWordLetter (Char.ofNat point)) = true := by decide +kernel
  simpa using of_isWhiteSpace (fun c => !isWordLetter c) none blank

def digits : List Char :=
  ['0', '1', '2', '3', '4', '5', '6', '7', '8', '9']

theorem mem_digits_of_isDigit {c : Char} (digit : c.isDigit = true) : c ∈ digits := by
  have low : 48 ≤ c.toNat := by
    simp only [Char.isDigit, Bool.and_eq_true, decide_eq_true_eq] at digit
    exact digit.1
  have high : c.toNat ≤ 57 := by
    simp only [Char.isDigit, Bool.and_eq_true, decide_eq_true_eq] at digit
    exact digit.2
  have member : c.toNat ∈ List.range' 48 10 := List.mem_range'_1.mpr ⟨low, by omega⟩
  have all : ∀ point ∈ List.range' 48 10, Char.ofNat point ∈ digits := by decide
  simpa using all c.toNat member

theorem isWordLetter_of_isDigit {c : Char} (digit : c.isDigit = true) :
    isWordLetter c = false := by
  have none : digits.all (fun c => !isWordLetter c) = true := by decide
  simpa using List.all_eq_true.mp none c (mem_digits_of_isDigit digit)

theorem isWhiteSpace_of_isDigit {c : Char} (digit : c.isDigit = true) :
    isWhiteSpace c = false := by
  have none : digits.all (fun c => !isWhiteSpace c) = true := by decide
  simpa using List.all_eq_true.mp none c (mem_digits_of_isDigit digit)

def asciiLetters : List Char :=
  (List.range' 65 26 ++ List.range' 97 26).map Char.ofNat

theorem mem_asciiLetters_of_isAlpha {c : Char} (letter : c.isAlpha = true) :
    c ∈ asciiLetters := by
  have range : 65 ≤ c.toNat ∧ c.toNat ≤ 90 ∨ 97 ≤ c.toNat ∧ c.toNat ≤ 122 := by
    change (decide ('A'.val ≤ c.val ∧ c.val ≤ 'Z'.val) ||
      (decide ('a'.val ≤ c.val) && decide (c.val ≤ 'z'.val))) = true at letter
    simpa [UInt32.le_iff_toNat_le] using letter
  refine List.mem_map.mpr ⟨c.toNat, ?_, Char.ofNat_toNat c⟩
  simp only [List.mem_append, List.mem_range'_1]
  omega

end Numbering.Character
