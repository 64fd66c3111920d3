import Numbering.Proofs.Expression.Sound
import Numbering.Proofs.Text.Spaced

/-! # Texts taken apart

White space is taken off both ends of a text, and a text is cut at the first place where a separator
stands. What is trimmed is the text but for white space around it (`spaced_trim`), and a text that
neither begins nor ends with white space is what trimming finds inside white space (`trim_of_spaced`).
A separator whose first character the front does not hold is found right behind that front
(`splitOnce?_append`).
-/

namespace Numbering.Text

open Expression

variable {text core front back : Text} {pieces : List Text} {mark c : Char}

/-! ## White space at both ends -/

theorem spaced_trim (text : Text) : Spaced [trim text] text := by
  obtain ⟨before, white, front⟩ := Parts.exists_blank (rfl : skipBlank text = skipBlank text)
  obtain ⟨after, white', back⟩ := Parts.exists_blank
    (rfl : skipBlank (skipBlank text).reverse = skipBlank (skipBlank text).reverse)
  have inside : skipBlank text = trim text ++ after.reverse := by
    rw [← List.reverse_reverse (skipBlank text), back, List.reverse_append, trim]
  have blank : IsBlank after.reverse := fun c member => white' c (List.mem_reverse.mp member)
  rw [inside] at front
  exact spaced_cons_iff.mpr ⟨before, after.reverse, front, white, .nil blank⟩

/-- Parts that a trimmed text holds are those that the text holds. -/
theorem Spaced.of_trim (inside : Spaced pieces (trim text)) : Spaced pieces text := by
  obtain ⟨before, after, same, white, blank⟩ := spaced_cons_iff.mp (spaced_trim text)
  have whole := (inside.behind_blank white).append blank
  rwa [List.append_nil, List.append_assoc, ← same] at whole

theorem trim_of_spaced (opens : Visible core) (ends : Visible core.reverse)
    (spaced : Spaced [core] text) : trim text = core := by
  obtain ⟨before, after, rfl, white, last⟩ := spaced_cons_iff.mp spaced
  have blank : IsBlank after.reverse :=
    fun c member => spaced_nil_iff.mp last c (List.mem_reverse.mp member)
  have none : skipBlank core.reverse = core.reverse := by
    have alone := skipBlank_of_visible ends []
    rwa [List.append_nil] at alone
  rw [trim, skipBlank_append white, skipBlank_of_visible opens, List.reverse_append,
    skipBlank_append blank, none, List.reverse_reverse]

/-- Trimmed, three parts are the middle one between texts that hold the outer two. -/
theorem Spaced.exists_trim_eq {first middle last : Text} (opens : Visible first)
    (ends : Visible last.reverse) (spaced : Spaced [first, middle, last] text) :
    ∃ front back, trim text = front ++ (middle ++ back) ∧ Spaced [first] front ∧
      Spaced [last] back := by
  obtain ⟨before, rest, rfl, white, later⟩ := spaced_cons_iff.mp spaced
  obtain ⟨gap, rest, rfl, white', later⟩ := spaced_cons_iff.mp later
  obtain ⟨gap', rest, rfl, white'', after⟩ := spaced_cons_iff.mp later
  have lead : Spaced [first] (first ++ gap) := .cons isBlank_nil (.nil white')
  have trail : Spaced [last] (gap' ++ (last ++ [])) := .cons white'' (.nil isBlank_nil)
  rw [List.append_nil] at trail
  refine ⟨first ++ gap, gap' ++ last, ?_, lead, trail⟩
  -- nothing is trimmed between the first character of the first part and the last one of the last
  apply trim_of_spaced
  · exact (opens.append gap).append _
  · have shown := ends.append (gap'.reverse ++ (middle.reverse ++ (first ++ gap).reverse))
    simpa using shown
  · refine spaced_cons_iff.mpr ⟨before, rest, ?_, white, after⟩
    simp only [List.append_assoc]

theorem visible_of_forall (filled : text ≠ [])
    (shown : ∀ c ∈ text, Character.isWhiteSpace c = false) : Visible text := by
  obtain ⟨c, rest, rfl⟩ := List.exists_cons_of_ne_nil filled
  exact ⟨c, rest, rfl, shown c List.mem_cons_self⟩

/-- A spaced text holds nothing but its parts and white space. -/
theorem Spaced.mem (spaced : Spaced pieces text) (member : c ∈ text) :
    Character.isWhiteSpace c = true ∨ ∃ piece ∈ pieces, c ∈ piece := by
  induction spaced with
  | nil white => exact .inl (white c member)
  | cons white _ ih =>
    rcases List.mem_append.mp member with blank | member
    · exact .inl (white c blank)
    · rcases List.mem_append.mp member with here | later
      · exact .inr ⟨_, List.mem_cons_self, here⟩
      · refine (ih later).imp_right ?_
        rintro ⟨piece, inside, here⟩
        exact ⟨piece, List.mem_cons_of_mem _ inside, here⟩

/-! ## Separators -/

theorem splitOnce?_append (absent : mark ∉ front) (rest back : Text) :
    splitOnce? (mark :: rest) (front ++ (mark :: rest ++ back)) = some (front, back) := by
  induction front with
  | nil =>
    have found : (mark :: rest).isPrefixOf (mark :: (rest ++ back)) = true :=
      List.isPrefixOf_iff_prefix.mpr (List.prefix_append (mark :: rest) back)
    simp [splitOnce?, found]
  | cons c front ih =>
    obtain ⟨other, later⟩ := List.ne_and_not_mem_of_not_mem_cons absent
    have here : (mark :: rest).isPrefixOf (c :: (front ++ (mark :: rest ++ back))) = false := by
      simp [List.isPrefixOf, other]
    rw [List.cons_append, splitOnce?, here, ih later]
    rfl

theorem splitOnce?_eq_none (absent : mark ∉ text) (rest : Text) :
    splitOnce? (mark :: rest) text = none := by
  induction text with
  | nil => rfl
  | cons c text ih =>
    obtain ⟨other, later⟩ := List.ne_and_not_mem_of_not_mem_cons absent
    have here : (mark :: rest).isPrefixOf (c :: text) = false := by
      simp [List.isPrefixOf, other]
    rw [splitOnce?, here, ih later]
    rfl

end Numbering.Text
