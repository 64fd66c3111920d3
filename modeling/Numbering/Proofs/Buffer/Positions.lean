import Mathlib.Data.List.Induction
import Numbering.Proofs.Buffer.Lines

/-! # The position of an offset

Going over the characters in front of an offset counts their line feeds and the characters behind
the last one. The position found in this way moves on with the offset (`positionAt_lt`), and it has
that offset again, with one exception: between a carriage return and the line feed behind it no
position lies, since both belong to the line end (`liesAt_positionAt_iff`).
-/

namespace Numbering

theorem Position.lt_next (position : Position) (c : Char) : position < position.next c := by
  rw [lt_iff, next]
  split
  · exact .inl (Nat.lt_succ_self _)
  · exact .inr ⟨rfl, Nat.lt_succ_self _⟩

theorem Position.lt_trans {first second third : Position} (before : first < second)
    (after : second < third) : first < third := by
  rw [lt_iff] at before after ⊢
  omega

theorem Position.le_of_lt {first second : Position} (before : first < second) :
    first ≤ second := by
  rw [lt_iff] at before
  rw [le_iff]
  omega

namespace Buffer

/-- Going over characters moves a position on. -/
theorem lt_foldl_next {text : Text} (filled : text ≠ []) (position : Position) :
    position < text.foldl Position.next position := by
  induction text generalizing position with
  | nil => exact absurd rfl filled
  | cons c rest ih =>
    have first := position.lt_next c
    cases rest with
    | nil => exact first
    | cons d others => exact Position.lt_trans first (ih (List.cons_ne_nil _ _) (position.next c))

/-- A later offset has a later position. -/
theorem positionAt_lt {buffer : Text} {offset place : Nat} (lt : offset < place)
    (inside : place ≤ buffer.length) : positionAt buffer offset < positionAt buffer place := by
  have split : buffer.take place =
      buffer.take offset ++ (buffer.drop offset).take (place - offset) := by
    rw [← List.take_add]
    congr 1
    omega
  have between : (buffer.drop offset).take (place - offset) ≠ [] := by
    rw [Ne, List.take_eq_nil_iff, List.drop_eq_nil_iff]
    omega
  rw [positionAt, positionAt, split, List.foldl_append]
  exact lt_foldl_next between _

/-- The position behind a text: its line feeds, and its characters behind the last of them. -/
theorem exists_foldl_next (text : Text) :
    ∃ before tail, text = before ++ tail ∧ (before = [] ∨ before.getLast? = some '\n') ∧
      '\n' ∉ tail ∧
      text.foldl Position.next ⟨0, 0⟩ = ⟨before.count '\n', tail.length⟩ := by
  -- from the last character, which either opens a line or stands in the one that is open
  induction text using List.reverseRecOn with
  | nil => exact ⟨[], [], rfl, .inl rfl, List.not_mem_nil, rfl⟩
  | append_singleton text c ih =>
    obtain ⟨before, tail, rfl, opens, clean, counted⟩ := ih
    rw [List.foldl_append, counted, List.foldl_cons, List.foldl_nil, Position.next]
    by_cases feed : c = '\n'
    · refine ⟨before ++ tail ++ [c], [], by simp, .inr (by simp [feed]), List.not_mem_nil, ?_⟩
      rw [if_pos feed, feed, List.count_append, List.count_append, List.count_eq_zero.mpr clean]
      simp
    · refine ⟨before, tail ++ [c], by simp, opens, ?_, ?_⟩
      · simp [clean, Ne.symm feed]
      · rw [if_neg feed, List.length_append, List.length_singleton]

/-! ## Where a position has its offset -/

/-- An offset between a carriage return and the line feed behind it. -/
def SplitsLineEnd (buffer : Text) (offset : Nat) : Prop :=
  ∃ front back, buffer = front ++ '\r' :: '\n' :: back ∧ offset = front.length + 1

theorem splitsLineEnd_append_iff {front back : Text} :
    SplitsLineEnd (front ++ back) front.length ↔
      front.getLast? = some '\r' ∧ back.head? = some '\n' := by
  constructor
  · rintro ⟨start, rest, same, length⟩
    have moved : front ++ back = (start ++ ['\r']) ++ '\n' :: rest := by simpa using same
    obtain ⟨rfl, rfl⟩ := List.append_inj moved (by simpa using length)
    simp
  · rintro ⟨last, first⟩
    obtain ⟨start, rfl⟩ := List.getLast?_eq_some_iff.mp last
    obtain ⟨rest, rfl⟩ := List.head?_eq_some_iff.mp first
    exact ⟨start, rest, by simp, by simp⟩

theorem IsLine.behind {before rest content : Text} (first : IsLine rest 0 [] content)
    (opens : before = [] ∨ before.getLast? = some '\n') :
    IsLine (before ++ rest) (before.count '\n') before content := by
  obtain ⟨⟨after, rfl, ends⟩, -, -, inside⟩ := first
  exact ⟨⟨after, by simp, ends⟩, rfl, opens, inside⟩

/-- The line that is open behind some characters reaches at least up to there, unless they end with
the carriage return of its line end. -/
theorem exists_isLine_of_open {before tail : Text} (back : Text)
    (opens : before = [] ∨ before.getLast? = some '\n') (clean : '\n' ∉ tail) :
    ∃ content, IsLine (before ++ (tail ++ back)) (before.count '\n') before content ∧
      (tail.length ≤ content.length ↔
        ¬ (tail.getLast? = some '\r' ∧ back.head? = some '\n')) := by
  by_cases feed : '\n' ∈ back
  · obtain ⟨first, rest, rfl, none⟩ := List.eq_append_cons_of_mem feed
    have inside : '\n' ∉ tail ++ first := by simp [clean, none]
    have line := ((isLine_zero inside rest).mpr ⟨rfl, rfl⟩).behind opens
    rw [List.append_assoc tail] at line
    refine ⟨_, line, ?_⟩
    rw [length_stripReturn, contentLength]
    cases first with
    | nil =>
      simp only [List.append_nil, List.nil_append, List.head?_cons, and_true]
      split
      · rename_i last
        have filled := List.length_pos_of_mem (List.mem_of_getLast? last)
        simp only [last, not_true_eq_false, iff_false]
        omega
      · rename_i last
        simp [last]
    | cons c others =>
      have other : c ≠ '\n' := fun same => none (same ▸ List.mem_cons_self)
      simp only [List.cons_append, List.head?_cons, Option.some.injEq, other, and_false,
        not_false_eq_true, iff_true, List.length_append, List.length_cons]
      split <;> omega
  · have whole : '\n' ∉ tail ++ back := by simp [clean, feed]
    refine ⟨tail ++ back, ((isLine_of_not_mem whole).mpr ⟨rfl, rfl, rfl⟩).behind opens, ?_⟩
    simp only [List.length_append, Nat.le_add_right, true_iff]
    rintro ⟨-, next⟩
    exact feed (List.mem_of_head? next)

variable {buffer : Text} {offset place : Nat}

/-- An offset in a buffer cuts it in two. -/
theorem exists_cut (inside : offset ≤ buffer.length) :
    ∃ front back, buffer = front ++ back ∧ front.length = offset :=
  ⟨buffer.take offset, buffer.drop offset, (List.take_append_drop ..).symm,
    List.length_take_of_le inside⟩

/-- The position of an offset lies at that offset, unless the offset splits a line end: then it does
not lie in the buffer. -/
theorem liesAt_positionAt_iff (inside : offset ≤ buffer.length) :
    LiesAt buffer (positionAt buffer offset) place ↔
      place = offset ∧ ¬ SplitsLineEnd buffer offset := by
  obtain ⟨front, back, rfl, rfl⟩ := exists_cut inside
  obtain ⟨before, tail, rfl, opens, clean, counted⟩ := exists_foldl_next front
  obtain ⟨content, isLine, reaches⟩ := exists_isLine_of_open back opens clean
  have here : positionAt (before ++ tail ++ back) (before ++ tail).length =
      ⟨before.count '\n', tail.length⟩ := by
    rw [positionAt, List.take_left, counted]
  rw [← List.append_assoc] at isLine
  have found : offset? (before ++ tail ++ back) ⟨before.count '\n', tail.length⟩ =
      if tail.length ≤ content.length then some (before.length + tail.length) else none :=
    offset?_of_isLine isLine
  have last : (before ++ tail).getLast? = some '\r' ↔ tail.getLast? = some '\r' := by
    rw [List.getLast?_append]
    cases tail.getLast? with
    | some c => simp
    | none => rcases opens with rfl | feed <;> simp [*]
  rw [here, ← offset?_eq_some_iff, found, splitsLineEnd_append_iff, last, ← reaches,
    List.length_append]
  by_cases within : tail.length ≤ content.length
  · simp [within, eq_comm]
  · simp [within]

/-- A position that lies in a buffer does not split a line end. -/
theorem LiesAt.not_splitsLineEnd {position : Position} (lies : LiesAt buffer position offset) :
    ¬ SplitsLineEnd buffer offset := by
  obtain ⟨before, content, ⟨⟨rest, rfl, ends⟩, -, opens, inside⟩, within, rfl⟩ := lies
  have length : (before ++ content.take position.column).length =
      before.length + position.column := by
    rw [List.length_append, List.length_take, Nat.min_eq_left within]
  have split : before ++ content ++ rest =
      (before ++ content.take position.column) ++ (content.drop position.column ++ rest) := by
    rw [← List.append_assoc, List.append_assoc before (content.take _), List.take_append_drop]
  rw [split, ← length, splitsLineEnd_append_iff]
  rintro ⟨last, first⟩
  cases behind : content.drop position.column with
  | cons c tail =>
    rw [behind, List.cons_append, List.head?_cons] at first
    have member : c ∈ content.drop position.column := behind ▸ List.mem_cons_self
    exact inside (Option.some.inj first ▸ List.mem_of_mem_drop member)
  | nil =>
    rw [behind, List.nil_append] at first
    rw [List.take_of_length_le (List.drop_eq_nil_iff.mp behind), List.getLast?_append] at last
    cases ends with
    | endOfBuffer => cases first
    | carriageReturn tail => cases first
    | lineFeed tail bare =>
      have bareBefore : before.getLast? ≠ some '\r' := by
        rcases opens with rfl | feed
        · simp
        · simp [feed]
      cases final : content.getLast? with
      | none =>
        rw [final, Option.none_or] at last
        exact bareBefore last
      | some c =>
        rw [final, Option.some_or] at last
        exact bare (final.trans last)

/-- The positions that lie in a buffer are those of the offsets that split no line end. -/
theorem liesAt_iff {position : Position} :
    LiesAt buffer position offset ↔
      offset ≤ buffer.length ∧ ¬ SplitsLineEnd buffer offset ∧
        positionAt buffer offset = position := by
  constructor
  · intro lies
    have inside := lies.le_length
    have whole := lies.not_splitsLineEnd
    exact ⟨inside, whole, ((liesAt_positionAt_iff inside).mpr ⟨rfl, whole⟩).position_eq lies⟩
  · rintro ⟨inside, whole, rfl⟩
    exact (liesAt_positionAt_iff inside).mpr ⟨rfl, whole⟩

/-- A position lies at its offset in every text with the same characters in front of it, if the last
of them is no carriage return. -/
theorem LiesAt.of_take_eq {position : Position} {text : Text} (lies : LiesAt buffer position offset)
    (same : text.take offset = buffer.take offset)
    (bare : (buffer.take offset).getLast? ≠ some '\r') : LiesAt text position offset := by
  obtain ⟨within, -, rfl⟩ := liesAt_iff.mp lies
  have inside : offset ≤ text.length := by
    have lengths := congrArg List.length same
    rw [List.length_take, List.length_take] at lengths
    omega
  refine liesAt_iff.mpr ⟨inside, ?_, by rw [positionAt, positionAt, same]⟩
  obtain ⟨front, back, rfl, rfl⟩ := exists_cut inside
  rw [List.take_left] at same
  rw [splitsLineEnd_append_iff, same]
  exact fun splits => bare splits.1

theorem contains_positionAt_iff (inside : offset ≤ buffer.length) :
    Contains buffer (positionAt buffer offset) ↔ ¬ SplitsLineEnd buffer offset := by
  simp only [Contains, liesAt_positionAt_iff inside, exists_eq_left]

end Buffer

end Numbering
