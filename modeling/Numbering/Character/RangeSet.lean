/-! # Sets and maps of code points given by ranges

Properties of characters are stored as inclusive ranges of code points in increasing order, and
case mappings as runs that all move by one shift. Both look-ups scan from the left and stop at the
first range that begins past the code point, so an early character is found early.

`RangeSet.covers` only answers `true` for a code point that some range of the set contains.
-/

namespace Numbering.Character

/-- A set of code points: inclusive ranges in increasing order. -/
abbrev RangeSet := List (Nat × Nat)

def RangeSet.covers : RangeSet → Nat → Bool
  | [], _ => false
  | (first, last) :: rest, point =>
    if point < first then false else decide (point ≤ last) || RangeSet.covers rest point

theorem RangeSet.exists_range_of_covers {ranges : RangeSet} {point : Nat}
    (covered : RangeSet.covers ranges point = true) :
    ∃ range ∈ ranges, range.1 ≤ point ∧ point ≤ range.2 := by
  induction ranges with
  | nil => simp [RangeSet.covers] at covered
  | cons range rest ih =>
    obtain ⟨first, last⟩ := range
    by_cases early : point < first
    · simp [RangeSet.covers, early] at covered
    · by_cases inside : point ≤ last
      · exact ⟨(first, last), by simp, by omega, inside⟩
      · obtain ⟨range, member, bounds⟩ := ih (by simpa [RangeSet.covers, early, inside] using covered)
        exact ⟨range, by simp [member], bounds⟩

/-- The code points `first, first + stride, …, last`, each moved by `shift`. -/
structure ShiftRun where
  first : Nat
  last : Nat
  stride : Nat
  shift : Int

def ShiftRun.covers (run : ShiftRun) (point : Nat) : Bool :=
  run.first ≤ point && point ≤ run.last && (point - run.first) % run.stride == 0

/-- The image of a code point under runs in increasing order; a code point in no run stays. -/
def shifted : List ShiftRun → Nat → Nat
  | [], point => point
  | run :: rest, point =>
    if point < run.first then point
    else if run.covers point then (point + run.shift).toNat
    else shifted rest point

/-- The several code points that one code point maps to, from a list in increasing order. -/
def expansion? : List (Nat × List Nat) → Nat → Option (List Nat)
  | [], _ => none
  | (source, images) :: rest, point =>
    if point < source then none
    else if point = source then some images
    else expansion? rest point

end Numbering.Character
