import Numbering.Proofs.Character.Folding
import Numbering.Text.Casing

/-! # Case and the letters of a text

A text in another case has the same letters, read without regard to case, exactly if each character
is mapped to one character with its fold. In lowercase two things stand against it: the dotted
capital I has two characters, and a capital sigma at the end of a word becomes a letter of its own.
-/

namespace Numbering.Text

open Character

variable {text before : Text}

/-- A piece and something at least as long as the tail make up a list only if the piece is its
head. -/
theorem append_eq_cons_iff_of_le {α : Type} {piece rest tail : List α} {head : α}
    (filled : piece ≠ []) (long : tail.length ≤ rest.length) :
    piece ++ rest = head :: tail ↔ piece = [head] ∧ rest = tail := by
  constructor
  · intro same
    obtain ⟨first, more, rfl⟩ := List.exists_cons_of_ne_nil filled
    rw [List.cons_append, List.cons.injEq] at same
    obtain ⟨rfl, same⟩ := same
    have sizes := congrArg List.length same
    rw [List.length_append] at sizes
    have none : more = [] := List.length_eq_zero_iff.mp (by omega)
    rw [none, List.nil_append] at same
    exact ⟨by rw [none], same⟩
  · rintro ⟨rfl, rfl⟩
    rfl

/-! ## Uppercase -/

theorem toUppercase_cons (letter : Char) (rest : Text) :
    toUppercase (letter :: rest) = uppercase letter ++ toUppercase rest :=
  List.flatMap_cons ..

theorem length_le_toUppercase (text : Text) : text.length ≤ (toUppercase text).length := by
  induction text with
  | nil => exact Nat.zero_le _
  | cons letter rest ih =>
    have filled := List.length_pos_iff.mpr (uppercase_ne_nil letter)
    rw [toUppercase_cons, List.length_append, List.length_cons]
    omega

/-- Uppercase keeps the letters of a text exactly if it keeps each of them. -/
theorem map_fold_toUppercase_iff (text : Text) :
    (toUppercase text).map fold = text.map fold ↔
      ∀ letter ∈ text, (uppercase letter).map fold = [fold letter] := by
  induction text with
  | nil => simp [toUppercase]
  | cons letter rest ih =>
    have long := length_le_toUppercase rest
    rw [toUppercase_cons, List.map_append, List.map_cons,
      append_eq_cons_iff_of_le (by simpa using uppercase_ne_nil letter) (by simpa using long), ih,
      List.forall_mem_cons]

/-! ## Lowercase -/

/-- A capital sigma that ends a word, in a text that follows another, which is given in reverse. -/
def FinalSigma (before text : Text) : Prop :=
  ∃ front back, text = front ++ 'Σ' :: back ∧ sigma (front.reverse ++ before) back = 'ς'

theorem finalSigma_cons_iff {letter : Char} {rest : Text} :
    FinalSigma before (letter :: rest) ↔
      (letter = 'Σ' ∧ sigma before rest = 'ς') ∨ FinalSigma (letter :: before) rest := by
  constructor
  · rintro ⟨front, back, cut, last⟩
    cases front with
    | nil =>
      obtain ⟨rfl, rfl⟩ := List.cons.inj cut
      exact .inl ⟨rfl, last⟩
    | cons first front =>
      obtain ⟨rfl, rfl⟩ := List.cons.inj cut
      exact .inr ⟨front, back, rfl, by simpa using last⟩
  · rintro (⟨rfl, last⟩ | ⟨front, back, rfl, last⟩)
    · exact ⟨[], rest, rfl, last⟩
    · exact ⟨letter :: front, back, rfl, by simpa using last⟩

/-- The lowercase of one character of a text. -/
def lowercaseAt (before : Text) (letter : Char) (rest : Text) : Text :=
  if letter = 'Σ' then [sigma before rest] else lowercase letter

theorem lowercaseAfter_cons (before : Text) (letter : Char) (rest : Text) :
    lowercaseAfter before (letter :: rest) =
      lowercaseAt before letter rest ++ lowercaseAfter (letter :: before) rest :=
  rfl

theorem lowercaseAt_ne_nil (before : Text) (letter : Char) (rest : Text) :
    lowercaseAt before letter rest ≠ [] := by
  rw [lowercaseAt]
  split_ifs
  · exact List.cons_ne_nil _ _
  · exact lowercase_ne_nil letter

theorem map_fold_lowercaseAt_iff (before : Text) (letter : Char) (rest : Text) :
    (lowercaseAt before letter rest).map fold = [fold letter] ↔
      letter ≠ 'İ' ∧ ¬ (letter = 'Σ' ∧ sigma before rest = 'ς') := by
  rw [lowercaseAt]
  split_ifs with capital
  · rw [capital, sigma]
    split_ifs <;> decide
  · by_cases dotted : letter = 'İ'
    · have two : (lowercase 'İ').map fold ≠ [fold 'İ'] := by decide
      simp [dotted, two]
    · simp [lowercase_eq dotted, fold_fold, capital, dotted]

theorem length_le_lowercaseAfter (before text : Text) :
    text.length ≤ (lowercaseAfter before text).length := by
  induction text generalizing before with
  | nil => exact Nat.zero_le _
  | cons letter rest ih =>
    have filled := List.length_pos_iff.mpr (lowercaseAt_ne_nil before letter rest)
    have later := ih (letter :: before)
    rw [lowercaseAfter_cons, List.length_append, List.length_cons]
    omega

theorem map_fold_lowercaseAfter_iff (before text : Text) :
    (lowercaseAfter before text).map fold = text.map fold ↔
      'İ' ∉ text ∧ ¬ FinalSigma before text := by
  induction text generalizing before with
  | nil => simp [lowercaseAfter, FinalSigma]
  | cons letter rest ih =>
    have long := length_le_lowercaseAfter (letter :: before) rest
    rw [lowercaseAfter_cons, List.map_append, List.map_cons,
      append_eq_cons_iff_of_le (by simpa using lowercaseAt_ne_nil before letter rest)
        (by simpa using long),
      map_fold_lowercaseAt_iff, ih, finalSigma_cons_iff, List.mem_cons]
    tauto

/-- Lowercase keeps the letters of a text exactly if it has no dotted capital I and no capital sigma
at the end of a word. -/
theorem map_fold_toLowercase_iff (text : Text) :
    (toLowercase text).map fold = text.map fold ↔ 'İ' ∉ text ∧ ¬ FinalSigma [] text :=
  map_fold_lowercaseAfter_iff [] text

end Numbering.Text
