import Numbering.Proofs.Expression.Opening

/-! # Texts with white space between them

A text may hold other texts in their order, with white space around them and between any two of them.
If each of them begins with a character other than white space, the gaps are determined by the text:
what stands behind the first of them is spaced from the others (`Spaced.of_append`), and two that are
joined in a text are joined wherever its front holds both of them (`Spaced.join`).
-/

namespace Numbering.Text

open Expression

/-- Texts in their order, with white space around them and between any two of them. -/
inductive Spaced : List Text → Text → Prop
  | nil {blank : Text} (white : blank.IsBlank) : Spaced [] blank
  | cons {blank piece rest : Text} {pieces : List Text} (white : blank.IsBlank)
      (later : Spaced pieces rest) : Spaced (piece :: pieces) (blank ++ (piece ++ rest))

variable {blank piece text front back : Text} {pieces before after : List Text}

theorem spaced_nil_iff : Spaced [] text ↔ text.IsBlank :=
  ⟨fun spaced => by cases spaced; assumption, .nil⟩

theorem spaced_cons_iff : Spaced (piece :: pieces) text ↔
    ∃ blank rest, text = blank ++ (piece ++ rest) ∧ blank.IsBlank ∧ Spaced pieces rest := by
  constructor
  · rintro (_ | ⟨white, later⟩)
    exact ⟨_, _, rfl, white, later⟩
  · rintro ⟨blank, rest, rfl, white, later⟩
    exact .cons white later

/-- White space in front of a spaced text widens its first gap. -/
theorem Spaced.behind_blank (white : blank.IsBlank) (spaced : Spaced pieces text) :
    Spaced pieces (blank ++ text) := by
  cases spaced with
  | nil more => exact .nil (isBlank_append.mpr ⟨white, more⟩)
  | cons more later =>
    rw [← List.append_assoc]
    exact .cons (isBlank_append.mpr ⟨white, more⟩) later

theorem Spaced.append (first : Spaced before front) (second : Spaced after back) :
    Spaced (before ++ after) (front ++ back) := by
  induction first with
  | nil white => exact second.behind_blank white
  | cons white _ ih =>
    rw [List.append_assoc, List.append_assoc]
    exact .cons white ih

/-- A part that is not there leaves one gap of the two around it. -/
theorem spaced_filter_iff :
    Spaced (pieces.filter (· ≠ [])) text ↔ Spaced pieces text := by
  induction pieces generalizing text with
  | nil => rfl
  | cons piece rest ih =>
    by_cases absent : piece = []
    · rw [absent, List.filter_cons_of_neg (by simp), ih]
      constructor
      · exact fun spaced => spaced_cons_iff.mpr ⟨[], text, rfl, isBlank_nil, spaced⟩
      · intro spaced
        obtain ⟨blank, tail, rfl, white, later⟩ := spaced_cons_iff.mp spaced
        exact later.behind_blank white
    · rw [List.filter_cons_of_pos (by simpa using absent), spaced_cons_iff, spaced_cons_iff]
      simp only [ih]

/-- The two halves of a text are spaced with nothing between them. -/
theorem Spaced.part {first second : Text}
    (joined : Spaced (before ++ (first ++ second) :: after) text) :
    Spaced (before ++ first :: second :: after) text := by
  induction before generalizing text with
  | nil =>
    obtain ⟨blank, rest, rfl, white, later⟩ := spaced_cons_iff.mp joined
    rw [List.append_assoc]
    exact .cons white (.cons isBlank_nil later)
  | cons piece others ih =>
    obtain ⟨blank, rest, rfl, white, later⟩ := spaced_cons_iff.mp joined
    exact .cons white (ih later)

/-! ## Gaps are where the parts leave them -/

/-- Behind white space a visible part is where the text goes on. -/
theorem spaced_cons_iff_of_visible (visible : Visible piece) : Spaced (piece :: pieces) text ↔
    ∃ rest, skipBlank text = piece ++ rest ∧ Spaced pieces rest := by
  constructor
  · intro spaced
    obtain ⟨blank, rest, rfl, white, later⟩ := spaced_cons_iff.mp spaced
    exact ⟨rest, by rw [skipBlank_append white, skipBlank_of_visible visible], later⟩
  · rintro ⟨rest, same, later⟩
    refine spaced_cons_iff.mpr ⟨text.takeWhile Character.isWhiteSpace, rest, ?_, ?_, later⟩
    · rw [← same, skipBlank, List.takeWhile_append_dropWhile]
    · exact fun c member => List.mem_takeWhile_imp member

/-- What a spaced text holds behind its first parts is spaced from the others. -/
theorem Spaced.of_append (visible : ∀ piece ∈ before ++ after, Visible piece)
    (first : Spaced before front) (whole : Spaced (before ++ after) (front ++ back)) :
    Spaced after back := by
  induction first with
  | @nil blank white =>
    rw [List.nil_append] at whole visible
    cases after with
    | nil =>
      rw [spaced_nil_iff] at whole ⊢
      exact (isBlank_append.mp whole).2
    | cons piece rest =>
      have shown := visible piece List.mem_cons_self
      rw [spaced_cons_iff_of_visible shown] at whole ⊢
      rwa [skipBlank_append white] at whole
  | @cons blank piece rest pieces white later ih =>
    have shown := visible piece List.mem_cons_self
    obtain ⟨tail, same, behind⟩ := (spaced_cons_iff_of_visible shown).mp whole
    rw [List.append_assoc, List.append_assoc, skipBlank_append white, skipBlank_of_visible shown]
      at same
    obtain rfl := List.append_cancel_left same
    exact ih (fun other member => visible other (List.mem_cons_of_mem _ member)) behind

/-- More white space between two parts leaves a text spaced. -/
theorem Spaced.insert (visible : ∀ piece ∈ before ++ after, Visible piece)
    (whole : Spaced (before ++ after) (front ++ back)) (first : Spaced before front)
    (white : blank.IsBlank) : Spaced (before ++ after) (front ++ (blank ++ back)) :=
  first.append ((Spaced.of_append visible first whole).behind_blank white)

/-- Two parts that are joined in a text are joined in the front of it that holds both. -/
theorem Spaced.join {first second : Text} {others : List Text}
    (visible : ∀ piece ∈ before, Visible piece) (shown : Visible first) (shown' : Visible second)
    (apart : Spaced (before ++ first :: second :: after) front)
    (joined : Spaced (before ++ (first ++ second) :: others) (front ++ back)) :
    Spaced (before ++ (first ++ second) :: after) front := by
  induction before generalizing front with
  | nil =>
    obtain ⟨blank, rest, rfl, white, later⟩ := spaced_cons_iff.mp apart
    obtain ⟨gap, tail, rfl, white', last⟩ := spaced_cons_iff.mp later
    obtain ⟨behind, same, -⟩ := (spaced_cons_iff_of_visible (shown.append second)).mp joined
    simp only [List.append_assoc, skipBlank_append white, skipBlank_of_visible shown] at same
    have tight := List.append_cancel_left same
    have skipped := congrArg skipBlank tight
    rw [skipBlank_append white', skipBlank_of_visible shown', skipBlank_of_visible shown'] at skipped
    obtain rfl : gap = [] := by
      rw [← skipped] at tight
      simpa using congrArg List.length tight
    rw [List.nil_append (second ++ tail), ← List.append_assoc first]
    exact .cons white last
  | cons piece rest ih =>
    have shownPiece := visible piece List.mem_cons_self
    obtain ⟨blank, tail, rfl, white, later⟩ := spaced_cons_iff.mp apart
    obtain ⟨behind, same, inner⟩ := (spaced_cons_iff_of_visible shownPiece).mp joined
    rw [List.append_assoc, List.append_assoc, skipBlank_append white,
      skipBlank_of_visible shownPiece] at same
    obtain rfl := List.append_cancel_left same
    exact .cons white (ih (fun other member => visible other (List.mem_cons_of_mem _ member))
      later inner)

/-- More white space anywhere but between two joined parts leaves them joined. -/
theorem Spaced.insert_joined {early late : List Text} {first second : Text}
    (visible : ∀ piece ∈ early ++ first :: second :: late, Visible piece)
    (whole : Spaced (early ++ (first ++ second) :: late) (front ++ back))
    (cut : early ++ first :: second :: late = before ++ after)
    (free : ¬ (before = early ++ [first] ∧ after = second :: late)) (spaced : Spaced before front)
    (white : blank.IsBlank) :
    Spaced (early ++ (first ++ second) :: late) (front ++ (blank ++ back)) := by
  have shown : ∀ piece ∈ early ++ (first ++ second) :: late, Visible piece := by
    intro piece member
    rcases List.mem_append.mp member with inside | inside
    · exact visible piece (by simp [inside])
    · rcases List.mem_cons.mp inside with rfl | inside
      · exact (visible first (by simp)).append second
      · exact visible piece (by simp [inside])
  -- the cut is in front of the first of the two, between them, or behind the second
  rcases List.append_eq_append_iff.mp cut with ⟨gone, rfl, rest⟩ | ⟨earlier, rfl, rfl⟩
  · match gone, rest with
    | [], rest =>
      rw [List.append_nil] at spaced
      exact whole.insert shown spaced white
    | [_], rest =>
      obtain ⟨rfl, behind⟩ := List.cons.inj rest
      exact absurd ⟨rfl, behind.symm⟩ free
    | _ :: _ :: later, rest =>
      obtain ⟨rfl, behind⟩ := List.cons.inj rest
      obtain ⟨rfl, last⟩ := List.cons.inj behind
      obtain rfl : late = later ++ after := last
      have tight := spaced.join (fun piece member => visible piece (by simp [member]))
        (visible first (by simp)) (visible second (by simp)) whole
      rw [← List.cons_append, ← List.append_assoc] at whole shown ⊢
      exact whole.insert shown tight white
  · rw [List.append_assoc] at whole shown ⊢
    exact whole.insert shown spaced white

end Numbering.Text
