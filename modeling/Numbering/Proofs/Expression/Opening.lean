import Mathlib.Data.List.DropRight
import Numbering.Expression.Parts
import Numbering.Proofs.Character.Classes
import Numbering.Proofs.Expression.Grammar

/-! # The character that opens a part

Behind its start an expression goes through six kinds of parts, and each kind has characters of its
own to begin with. Their ranks fall from the operator to the flags, so what stands behind a part
always opens with a lower rank than the part itself. This is why no choice of the scanner has to be
taken back: an absent part cannot be mistaken for what follows it.
-/

namespace Numbering.Expression

open Character

/-- The kind of part that a character opens behind the start: six for an operator, five for a step,
four for a mode, three for padding, two for a repeat and one for flags. White space opens nothing,
and no part but a start begins with a character of rank seven. -/
def rank (c : Char) : Nat :=
  if isWhiteSpace c then 0
  else if c = '!' ∨ c = '@' then 1
  else if c = '/' ∨ c = '^' then 2
  else if c = ':' then 3
  else if c = '#' ∨ c = 'a' ∨ c = 'A' then 4
  else if c.isDigit then 5
  else if c = '+' ∨ c = '-' then 6
  else 7

theorem rank_eq_zero_iff {c : Char} : rank c = 0 ↔ isWhiteSpace c = true := by
  unfold rank
  repeat' split
  all_goals simp_all

theorem rank_of_isDigit {c : Char} (digit : c.isDigit = true) : rank c = 5 := by
  have all : digits.all (fun c => rank c == 5) = true := by decide
  simpa using List.all_eq_true.mp all c (mem_digits_of_isDigit digit)

theorem rank_of_isFlag {c : Char} (flag : Parts.isFlag c = true) : rank c = 1 := by
  simp only [Parts.isFlag, Bool.or_eq_true, beq_iff_eq] at flag
  rcases flag with rfl | rfl <;> decide

theorem isDigit_of_rank_ne {c : Char} (other : rank c ≠ 5) : c.isDigit = false := by
  cases digit : c.isDigit with
  | true => exact absurd (rank_of_isDigit digit) other
  | false => rfl

/-- A letter opens a mode, as a marker, or nothing. -/
theorem four_le_rank_of_isWordLetter {c : Char} (letter : isWordLetter c = true) :
    4 ≤ rank c ∧ rank c ≠ 5 ∧ rank c ≠ 6 := by
  have notBlank : isWhiteSpace c = false := by
    cases blank : isWhiteSpace c with
    | true => simp [isWordLetter_of_isWhiteSpace blank] at letter
    | false => rfl
  have notDigit : c.isDigit = false := by
    cases digit : c.isDigit with
    | true => simp [isWordLetter_of_isDigit digit] at letter
    | false => rfl
  have notMark : ∀ mark ∈ ['!', '@', '/', '^', ':', '#', '+', '-'], c ≠ mark := by
    rintro mark member rfl
    have none : ['!', '@', '/', '^', ':', '#', '+', '-'].all (fun mark => !isWordLetter mark) := by
      decide
    have absent := List.all_eq_true.mp none c member
    simp [letter] at absent
  simp only [List.mem_cons, List.not_mem_nil, or_false, forall_eq_or_imp, forall_eq] at notMark
  obtain ⟨n1, n2, n3, n4, n5, n6, n7, n8⟩ := notMark
  unfold rank
  simp only [notBlank, notDigit, n1, n2, n3, n4, n5, n6, n7, n8, Bool.false_eq_true, or_self,
    false_or, if_false]
  split <;> omega

/-! ## What a text opens with -/

/-- A text begins with a character of a rank. -/
def Opens (level : Nat) (text : Text) : Prop :=
  ∃ c rest, text = c :: rest ∧ rank c = level

theorem Opens.level_eq {level other : Nat} {text rival rest after : Text}
    (opens : Opens level text) (opens' : Opens other rival)
    (same : text ++ rest = rival ++ after) : level = other := by
  obtain ⟨c, tail, rfl, ranked⟩ := opens
  obtain ⟨d, tail', rfl, ranked'⟩ := opens'
  rw [← ranked, ← ranked', (List.cons.inj same).1]

/-- Behind white space, a text begins with a character below a rank or not at all. -/
def OpensBelow (level : Nat) (text : Text) : Prop :=
  ∀ c ∈ (Text.skipBlank text).head?, rank c < level

theorem skipBlank_append {blank : Text} (white : blank.IsBlank) (rest : Text) :
    Text.skipBlank (blank ++ rest) = Text.skipBlank rest :=
  List.dropWhile_append_of_pos white

theorem skipBlank_skipBlank (text : Text) :
    Text.skipBlank (Text.skipBlank text) = Text.skipBlank text :=
  List.dropWhile_idempotent _ _

/-- A text that begins with a character other than white space. -/
def Visible (text : Text) : Prop :=
  ∃ c rest, text = c :: rest ∧ isWhiteSpace c = false

theorem Visible.append {text : Text} (visible : Visible text) (rest : Text) :
    Visible (text ++ rest) := by
  obtain ⟨c, tail, rfl, shown⟩ := visible
  exact ⟨c, tail ++ rest, rfl, shown⟩

theorem Opens.visible {level : Nat} {text : Text} (opens : Opens (level + 1) text) :
    Visible text := by
  obtain ⟨c, tail, rfl, ranked⟩ := opens
  refine ⟨c, tail, rfl, ?_⟩
  cases blank : isWhiteSpace c with
  | true => rw [rank_eq_zero_iff.mpr blank] at ranked; omega
  | false => rfl

theorem skipBlank_of_visible {text : Text} (visible : Visible text) (rest : Text) :
    Text.skipBlank (text ++ rest) = text ++ rest := by
  obtain ⟨c, tail, rfl, shown⟩ := visible
  rw [Text.skipBlank, List.cons_append, List.dropWhile_cons_of_neg (by simp [shown])]

theorem skipBlank_of_opens {level : Nat} {text : Text} (opens : Opens (level + 1) text)
    (rest : Text) : Text.skipBlank (text ++ rest) = text ++ rest :=
  skipBlank_of_visible opens.visible rest

/-- A text that goes on with a part behind white space opens with the rank of that part. -/
theorem Opens.opensBelow {level : Nat} {part text rest : Text} (opens : Opens level part)
    (same : Text.skipBlank text = part ++ rest) : OpensBelow (level + 1) text := by
  obtain ⟨c, tail, rfl, ranked⟩ := opens
  intro d first
  obtain rfl : c = d := by simpa [same] using first
  omega

/-- White space itself has the lowest rank, so nothing changes if it is not skipped. -/
theorem OpensBelow.head {level : Nat} {text : Text} (low : OpensBelow (level + 1) text) :
    ∀ c ∈ text.head?, rank c < level + 1 := by
  intro c first
  cases blank : isWhiteSpace c with
  | true => rw [rank_eq_zero_iff.mpr blank]; omega
  | false =>
    refine low c ?_
    cases text with
    | nil => simp at first
    | cons d rest =>
      obtain rfl : d = c := by simpa using first
      rw [Text.skipBlank, List.dropWhile_cons_of_neg (by simp [blank])]
      rfl

end Numbering.Expression
