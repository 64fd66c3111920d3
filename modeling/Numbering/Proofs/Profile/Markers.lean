import Numbering.Proofs.Buffer.Replacement
import Numbering.Proofs.Profile.Fill

/-! # Filling at the occurrences of a marker

A batch at the occurrences of a marker can only be refused because an occurrence begins or ends
inside a line end, between its carriage return and its line feed. The refusal then names the
position in front of that line feed, which counts the carriage return as a column of the line. A
buffer that is filled has the occurrences replaced one by one by the values of the sequence, from
the first value on, whether the expression reorders or not.
-/

namespace Numbering

open Buffer (markers occurrences SplitsLineEnd positionAt)

/-- Targets at the occurrences of a marker are in reading order, so reordering leaves them as they
are. -/
theorem Expression.plan_markers (expression : Expression) (alphabet : Alphabet)
    (buffer marker : Text) :
    expression.plan alphabet (markers buffer marker) =
      expression.assign alphabet (markers buffer marker) :=
  expression.plan_of_inReadingOrder alphabet (Buffer.inReadingOrder_markers buffer marker)

/-- A plan at the occurrences of a marker has them as its targets, in the order of the buffer. -/
theorem Expression.map_target_plan_markers (expression : Expression) (alphabet : Alphabet)
    (buffer marker : Text) :
    (expression.plan alphabet (markers buffer marker)).map Edit.target = markers buffer marker := by
  rw [plan_markers]
  exact map_target_assign expression alphabet (markers buffer marker)

/-- Its texts are the values from the first one on. -/
theorem Expression.map_text_plan_markers (expression : Expression) (alphabet : Alphabet)
    (buffer marker : Text) :
    (expression.plan alphabet (markers buffer marker)).map Edit.text =
      (List.range (occurrences buffer marker).length).map (expression.valueAt alphabet) := by
  have size : (markers buffer marker).length = (occurrences buffer marker).length :=
    List.length_map _
  rw [plan_markers, map_text_assign, size]
  rfl

namespace Profile

variable {profile : Profile} {text : Text} {expression : Expression}

theorem exists_fill_markers_iff (reads : profile.read text = .ok expression)
    (buffer marker : Text) :
    (∃ result, profile.fill text buffer (markers buffer marker) = .ok result) ↔
      ∀ offset ∈ occurrences buffer marker,
        ¬ SplitsLineEnd buffer offset ∧ ¬ SplitsLineEnd buffer (offset + marker.length) := by
  simp only [fill_eq_ok_iff reads, Buffer.exists_apply_eq_ok_iff]
  exact Buffer.acceptable_markers_iff (Expression.map_target_plan_markers ..)

/-- An expression is refused at the occurrences of a marker exactly if one of them begins or ends
inside a line end, and the refusal names such an end. A marker that neither begins with a line feed
nor ends with a carriage return is filled in every buffer. -/
theorem fill_markers_refused_iff (reads : profile.read text = .ok expression)
    (buffer marker : Text) :
    ((∃ fault, profile.fill text buffer (markers buffer marker) = .error (.edit fault)) ↔
        ∃ offset ∈ occurrences buffer marker,
          SplitsLineEnd buffer offset ∨ SplitsLineEnd buffer (offset + marker.length)) ∧
      (∀ fault, profile.fill text buffer (markers buffer marker) = .error (.edit fault) →
        ∃ offset ∈ occurrences buffer marker, ∃ place,
          (place = offset ∨ place = offset + marker.length) ∧ SplitsLineEnd buffer place ∧
            fault = .outOfBounds (positionAt buffer place)) ∧
      (marker.head? ≠ some '\n' → marker.getLast? ≠ some '\r' →
        ∃ result, profile.fill text buffer (markers buffer marker) = .ok result) := by
  have filled := exists_fill_markers_iff reads buffer marker
  refine ⟨?_, ?_, ?_⟩
  · have refused : (∃ fault, profile.fill text buffer (markers buffer marker) =
          .error (.edit fault)) ↔
        ¬ ∃ result, profile.fill text buffer (markers buffer marker) = .ok result := by
      rw [fill_of_read reads]
      cases Buffer.apply buffer (expression.plan profile.alphabet (markers buffer marker)) <;>
        simp [Except.mapError]
    rw [refused, filled]
    simp only [not_forall, not_and_or, not_not, exists_prop]
  · intro fault refused
    exact Buffer.exists_splitsLineEnd_of_apply (Expression.map_target_plan_markers ..)
      ((fill_eq_edit_iff reads).mp refused)
  · intro first last
    refine filled.mpr fun offset found => ⟨?_, ?_⟩
    · exact fun splits => first (Buffer.head?_of_splitsLineEnd found splits)
    · exact fun splits => last (Buffer.getLast?_of_splitsLineEnd found splits)

/-- The marker is a line feed that stands behind a carriage return. -/
theorem fill_markers_refused_line_feed :
    ∃ offset ∈ occurrences ['a', '\r', '\n', 'b'] ['\n'], ∃ place,
      (place = offset ∨ place = offset + 1) ∧ SplitsLineEnd ['a', '\r', '\n', 'b'] place ∧
        EditError.outOfBounds ⟨0, 2⟩ = .outOfBounds (positionAt ['a', '\r', '\n', 'b'] place) := by
  have reads : (Profile.mk .latin .standard).read ['1'] = .ok (.ofStart (.numeric 1)) := by decide
  have refused : (Profile.mk .latin .standard).fill ['1'] ['a', '\r', '\n', 'b']
      (markers ['a', '\r', '\n', 'b'] ['\n']) = .error (.edit (.outOfBounds ⟨0, 2⟩)) :=
    (fill_eq_edit_iff reads).mpr (Buffer.apply_of_misplaced (by decide))
  exact (fill_markers_refused_iff reads ['a', '\r', '\n', 'b'] ['\n']).2.1 _ refused

/-- A buffer is filled at the occurrences of a marker unless one of them begins or ends inside a line
end, and is then the buffer with the occurrences replaced one by one from the left, each by the next
value of the sequence. The empty marker leaves the buffer as it is. -/
theorem fill_markers_replaces (reads : profile.read text = .ok expression) (buffer marker : Text) :
    (marker ≠ [] → ∀ result, profile.fill text buffer (markers buffer marker) = .ok result ↔
        (∀ offset ∈ occurrences buffer marker,
          ¬ SplitsLineEnd buffer offset ∧ ¬ SplitsLineEnd buffer (offset + marker.length)) ∧
        result = Text.replaceEach marker (expression.valueAt profile.alphabet) 0 buffer) ∧
      (marker = [] → profile.fill text buffer (markers buffer marker) = .ok buffer) := by
  constructor
  · intro filled result
    have replaced {filling : Text}
        (success : profile.fill text buffer (markers buffer marker) = .ok filling) :
        filling = Text.replaceEach marker (expression.valueAt profile.alphabet) 0 buffer :=
      Buffer.eq_replaceEach_of_apply filled (Expression.map_target_plan_markers ..)
        (Expression.map_text_plan_markers ..) ((fill_eq_ok_iff reads).mp success)
    constructor
    · intro success
      exact ⟨(exists_fill_markers_iff reads buffer marker).mp ⟨result, success⟩, replaced success⟩
    · rintro ⟨whole, rfl⟩
      obtain ⟨filling, success⟩ := (exists_fill_markers_iff reads buffer marker).mpr whole
      rw [success, replaced success]
  · rintro rfl
    rw [fill_eq_ok_iff reads, Expression.plan_markers, Buffer.markers_nil]
    exact Buffer.apply_nil buffer

/-- The marker overlaps itself in the first line and stands right behind the line end. -/
theorem fill_markers_replaces_pairs :
    (Profile.mk .latin .standard).fill ['1', '!'] ['a', 'a', 'a', '\r', '\n', 'a', 'a']
        (markers ['a', 'a', 'a', '\r', '\n', 'a', 'a'] ['a', 'a']) =
      .ok ['1', 'a', '\r', '\n', '2'] ∧
    ['1', 'a', '\r', '\n', '2'] =
      Text.replaceEach ['a', 'a']
        ({ Expression.ofStart (.numeric 1) with reorder := true }.valueAt .latin) 0
        ['a', 'a', 'a', '\r', '\n', 'a', 'a'] ∧
    (Profile.mk .latin .standard).fill ['1', '!'] ['a', 'a'] (markers ['a', 'a'] []) =
      .ok ['a', 'a'] := by
  have reads : (Profile.mk .latin .standard).read ['1', '!'] =
      .ok { Expression.ofStart (.numeric 1) with reorder := true } := by decide
  have values : Expression.values { Expression.ofStart (.numeric 1) with reorder := true } .latin 2 =
      [['1'], ['2']] := Expression.values_ofStart_digits .latin (by decide)
  have found : [⟨⟨⟨0, 0⟩, ⟨0, 2⟩⟩, ['1']⟩, ⟨⟨⟨1, 0⟩, ⟨1, 2⟩⟩, ['2']⟩].mapM
      (Buffer.place (Buffer.lineSpans ['a', 'a', 'a', '\r', '\n', 'a', 'a'])) =
        .ok [⟨⟨0, 2⟩, ⟨⟨0, 0⟩, ⟨0, 2⟩⟩, ['1']⟩, ⟨⟨5, 7⟩, ⟨⟨1, 0⟩, ⟨1, 2⟩⟩, ['2']⟩] := by decide
  have filled : (Profile.mk .latin .standard).fill ['1', '!']
      ['a', 'a', 'a', '\r', '\n', 'a', 'a']
      (markers ['a', 'a', 'a', '\r', '\n', 'a', 'a'] ['a', 'a']) =
        .ok ['1', 'a', '\r', '\n', '2'] :=
    fill_of_sorted reads (Buffer.inReadingOrder_markers ..) values found (by decide) rfl rfl
  have pairs := (fill_markers_replaces reads ['a', 'a', 'a', '\r', '\n', 'a', 'a'] ['a', 'a']).1
    (by decide) ['1', 'a', '\r', '\n', '2']
  exact ⟨filled, (pairs.mp filled).2, (fill_markers_replaces reads ['a', 'a'] []).2 rfl⟩

/-- Targets found in a buffer are not always accepted in it. -/
theorem markers_not_always_filled :
    (Profile.mk .latin .standard).read ['1'] = .ok (.ofStart (.numeric 1)) ∧
      (Profile.mk .latin .standard).fill ['1'] ['a', '\r', '\n', 'b']
          (markers ['a', '\r', '\n', 'b'] ['\n']) =
        .error (.edit (.outOfBounds ⟨0, 2⟩)) := by
  have reads : (Profile.mk .latin .standard).read ['1'] = .ok (.ofStart (.numeric 1)) := by decide
  exact ⟨reads, (fill_eq_edit_iff reads).mpr (Buffer.apply_of_misplaced (by decide))⟩

end Profile

end Numbering
