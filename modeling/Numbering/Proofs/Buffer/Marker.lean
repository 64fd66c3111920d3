import Numbering.Proofs.Buffer.Faults
import Numbering.Proofs.Buffer.Positions
import Numbering.Proofs.Buffer.ReadingOrder

/-! # Targets at the occurrences of a marker

Occurrences come one after another and do not overlap, so the targets at them are in reading order
and free of overlap. The one thing that may keep a batch at these targets from being applied is a
line end: an occurrence that begins or ends between a carriage return and the line feed behind it
has an end where no position lies (`acceptable_markers_iff`). A marker that neither begins with a
line feed nor ends with a carriage return has no such occurrence.
-/

namespace Numbering.Buffer

variable {buffer marker text : Text} {offset place : Nat}

/-! ## Occurrences -/

theorem le_of_mem_occurrencesFrom {covered : Nat}
    (member : place ∈ occurrencesFrom marker covered offset text) : offset + covered ≤ place := by
  fun_induction occurrencesFrom marker covered offset text with
  | case1 => cases member
  | case2 offset c rest more ih =>
    have later := ih member
    omega
  | case3 offset c rest here ih =>
    rcases List.mem_cons.mp member with rfl | member
    · exact Nat.le_refl _
    · have later := ih member
      omega
  | case4 offset c rest other ih =>
    have later := ih member
    omega

private theorem drop_cons_of_lt (c : Char) (rest : Text) (later : offset < place) :
    (c :: rest).drop (place - offset) = rest.drop (place - (offset + 1)) := by
  obtain ⟨distance, rfl⟩ := Nat.exists_eq_add_of_lt later
  rw [Nat.add_assoc, Nat.add_sub_cancel_left, Nat.add_sub_add_left, List.drop_succ_cons]
  rfl

/-- The marker stands at every offset that is found. -/
theorem prefix_of_mem_occurrencesFrom {covered : Nat}
    (member : place ∈ occurrencesFrom marker covered offset text) :
    marker <+: text.drop (place - offset) := by
  fun_induction occurrencesFrom marker covered offset text with
  | case1 => cases member
  | case2 offset c rest more ih =>
    have later := le_of_mem_occurrencesFrom member
    rw [drop_cons_of_lt c rest (by omega)]
    exact ih member
  | case3 offset c rest here ih =>
    rcases List.mem_cons.mp member with rfl | member
    · rw [Nat.sub_self, List.drop_zero]
      exact List.isPrefixOf_iff_prefix.mp here
    · have later := le_of_mem_occurrencesFrom member
      rw [drop_cons_of_lt c rest (by omega)]
      exact ih member
  | case4 offset c rest other ih =>
    have later := le_of_mem_occurrencesFrom member
    rw [drop_cons_of_lt c rest (by omega)]
    exact ih member

/-- The search goes on behind each occurrence. -/
theorem pairwise_occurrencesFrom (marker : Text) (covered offset : Nat) (text : Text) :
    (occurrencesFrom marker covered offset text).Pairwise fun first second =>
      first + marker.length ≤ second := by
  fun_induction occurrencesFrom marker covered offset text with
  | case1 => exact .nil
  | case2 offset c rest more ih => exact ih
  | case3 offset c rest here ih =>
    refine List.pairwise_cons.mpr ⟨?_, ih⟩
    intro place member
    have later := le_of_mem_occurrencesFrom member
    omega
  | case4 offset c rest other ih => exact ih

theorem pairwise_occurrences (buffer marker : Text) :
    (occurrences buffer marker).Pairwise fun first second => first + marker.length ≤ second := by
  rw [occurrences]
  split
  · exact .nil
  · exact pairwise_occurrencesFrom marker 0 0 buffer

/-- An occurrence splits the buffer into what stands before it, the marker and what stands after. -/
theorem exists_split_of_mem_occurrences (member : offset ∈ occurrences buffer marker) :
    marker ≠ [] ∧ ∃ front back, buffer = front ++ (marker ++ back) ∧ front.length = offset := by
  rw [occurrences] at member
  split at member
  · cases member
  · rename_i filled
    have nonempty : marker ≠ [] := by simpa using filled
    obtain ⟨back, rest⟩ := prefix_of_mem_occurrencesFrom member
    rw [Nat.sub_zero] at rest
    refine ⟨nonempty, buffer.take offset, back, by rw [rest, List.take_append_drop], ?_⟩
    apply List.length_take_of_le
    by_contra high
    rw [List.drop_of_length_le (Nat.le_of_not_le high), List.append_eq_nil_iff] at rest
    exact nonempty rest.1

theorem le_length_of_mem_occurrences (member : offset ∈ occurrences buffer marker) :
    offset + marker.length ≤ buffer.length := by
  obtain ⟨-, front, back, rfl, rfl⟩ := exists_split_of_mem_occurrences member
  simp only [List.length_append]
  omega

/-- An occurrence that splits a line end begins with its line feed. -/
theorem head?_of_splitsLineEnd (member : offset ∈ occurrences buffer marker)
    (splits : SplitsLineEnd buffer offset) : marker.head? = some '\n' := by
  obtain ⟨nonempty, front, back, rfl, rfl⟩ := exists_split_of_mem_occurrences member
  have first := (splitsLineEnd_append_iff.mp splits).2
  cases marker with
  | nil => exact absurd rfl nonempty
  | cons c rest => exact first

/-- An occurrence behind which a line end is split ends with its carriage return. -/
theorem getLast?_of_splitsLineEnd (member : offset ∈ occurrences buffer marker)
    (splits : SplitsLineEnd buffer (offset + marker.length)) :
    marker.getLast? = some '\r' := by
  obtain ⟨nonempty, front, back, rfl, rfl⟩ := exists_split_of_mem_occurrences member
  rw [← List.append_assoc, ← List.length_append] at splits
  have last := (splitsLineEnd_append_iff.mp splits).1
  obtain ⟨start, c, rfl⟩ := (List.eq_nil_or_concat marker).resolve_left nonempty
  simpa using last

/-! ## Targets -/

def targetAt (buffer : Text) (start stop : Nat) : Target :=
  ⟨positionAt buffer start, positionAt buffer stop⟩

theorem start_lt_stop_of_mem_occurrences (member : offset ∈ occurrences buffer marker) :
    positionAt buffer offset < positionAt buffer (offset + marker.length) := by
  have filled := List.length_pos_iff.mpr (exists_split_of_mem_occurrences member).1
  exact positionAt_lt (by omega) (le_length_of_mem_occurrences member)

theorem markers_eq (buffer marker : Text) :
    markers buffer marker =
      (occurrences buffer marker).map fun offset =>
        targetAt buffer offset (offset + marker.length) := by
  rw [markers]
  refine List.map_congr_left fun offset member => ?_
  rw [Target.between, if_pos (Position.le_of_lt (start_lt_stop_of_mem_occurrences member))]
  rfl

theorem inReadingOrder_markers (buffer marker : Text) :
    Target.InReadingOrder (markers buffer marker) := by
  rw [markers_eq, Target.InReadingOrder, List.pairwise_map]
  refine (pairwise_occurrences buffer marker).imp_of_mem
    fun {first second} member member' apart => ?_
  have filled := List.length_pos_iff.mpr (exists_split_of_mem_occurrences member).1
  have inside := le_length_of_mem_occurrences member'
  exact Target.precedes_iff.mpr (.inl (positionAt_lt (by omega) (by omega)))

theorem occupies_targetAt_iff {start stop : Nat} {span : Span} (low : start ≤ buffer.length)
    (high : stop ≤ buffer.length) :
    Occupies buffer (targetAt buffer start stop) span ↔
      span = ⟨start, stop⟩ ∧ ¬ SplitsLineEnd buffer start ∧ ¬ SplitsLineEnd buffer stop := by
  obtain ⟨first, last⟩ := span
  rw [Occupies, targetAt, liesAt_positionAt_iff low, liesAt_positionAt_iff high, Span.mk.injEq]
  exact and_and_and_comm

/-! ## Batches -/

section Batch
variable {edits : List Edit} (targets : edits.map Edit.target = markers buffer marker)
include targets

/-- Every edit of a batch at the occurrences of a marker stands at one of them. -/
theorem exists_occurrence_of_mem {edit : Edit} (member : edit ∈ edits) :
    ∃ offset ∈ occurrences buffer marker,
      edit.target = targetAt buffer offset (offset + marker.length) := by
  have listed : edit.target ∈ edits.map Edit.target := List.mem_map_of_mem member
  rw [targets, markers_eq] at listed
  obtain ⟨offset, found, same⟩ := List.mem_map.mp listed
  exact ⟨offset, found, same.symm⟩

/-- An edit stands at every occurrence. -/
theorem exists_mem_of_occurrence (found : offset ∈ occurrences buffer marker) :
    ∃ edit ∈ edits, edit.target = targetAt buffer offset (offset + marker.length) := by
  have listed : targetAt buffer offset (offset + marker.length) ∈ edits.map Edit.target := by
    rw [targets, markers_eq]
    exact List.mem_map_of_mem found
  exact List.mem_map.mp listed

theorem pairwise_clear_of_markers :
    edits.Pairwise fun first second => ¬ TargetsOverlap buffer first.target second.target := by
  have apart : (edits.map Edit.target).Pairwise fun first second =>
      ¬ TargetsOverlap buffer first second := by
    rw [targets, markers_eq, List.pairwise_map]
    refine (pairwise_occurrences buffer marker).imp_of_mem
      fun {first second} member member' behind => ?_
    have stop := le_length_of_mem_occurrences member
    have stop' := le_length_of_mem_occurrences member'
    rintro ⟨span, other, one, two, overlap⟩
    obtain ⟨rfl, -⟩ := (occupies_targetAt_iff (by omega) stop).mp one
    obtain ⟨rfl, -⟩ := (occupies_targetAt_iff (by omega) stop').mp two
    exact Span.not_overlaps_of_le behind overlap
  exact List.pairwise_map.mp apart

/-- A batch at the occurrences of a marker is acceptable unless one of them begins or ends inside a
line end. -/
theorem acceptable_markers_iff :
    Acceptable buffer edits ↔ ∀ offset ∈ occurrences buffer marker,
      ¬ SplitsLineEnd buffer offset ∧ ¬ SplitsLineEnd buffer (offset + marker.length) := by
  constructor
  · intro acceptable offset found
    obtain ⟨edit, member, same⟩ := exists_mem_of_occurrence targets found
    have inside := acceptable.inside edit member
    have stop := le_length_of_mem_occurrences found
    rw [same, targetAt, contains_positionAt_iff (by omega), contains_positionAt_iff stop] at inside
    exact inside
  · intro whole
    refine ⟨?_, ?_, pairwise_clear_of_markers targets⟩
    · intro edit member
      obtain ⟨offset, found, same⟩ := exists_occurrence_of_mem targets member
      rw [same]
      exact Position.le_of_lt (start_lt_stop_of_mem_occurrences found)
    · intro edit member
      obtain ⟨offset, found, same⟩ := exists_occurrence_of_mem targets member
      have stop := le_length_of_mem_occurrences found
      rw [same, targetAt, contains_positionAt_iff (by omega), contains_positionAt_iff stop]
      exact whole offset found

/-- The refusal of such a batch is about an end of an occurrence that splits a line end. -/
theorem exists_splitsLineEnd_of_apply {fault : EditError}
    (refused : apply buffer edits = .error fault) :
    ∃ offset ∈ occurrences buffer marker, ∃ place,
      (place = offset ∨ place = offset + marker.length) ∧ SplitsLineEnd buffer place ∧
        fault = .outOfBounds (positionAt buffer place) := by
  cases placed : edits.mapM (place (lineSpans buffer)) with
  | ok listed =>
    obtain ⟨rfl, fits⟩ := mapM_place_eq_ok_iff.mp placed
    have clear := (pairwise_targets_iff fun edit member => (fits edit member).2).mp
      (pairwise_clear_of_markers targets)
    obtain ⟨result, applied⟩ := exists_apply_eq_ok_iff.mpr (acceptable_iff.mpr ⟨_, placed, clear⟩)
    rw [refused] at applied
    cases applied
  | error first =>
    rw [apply_of_misplaced placed] at refused
    obtain rfl := Except.error.inj refused
    obtain ⟨front, edit, back, same, -, misplaced⟩ := mapM_eq_error_iff.mp placed
    have member : edit ∈ edits := same ▸ List.mem_append_right _ List.mem_cons_self
    obtain ⟨offset, found, stands⟩ := exists_occurrence_of_mem targets member
    have stop := le_length_of_mem_occurrences found
    refine ⟨offset, found, ?_⟩
    rw [place_eq_error_iff, stands, targetAt, contains_positionAt_iff (by omega),
      contains_positionAt_iff stop] at misplaced
    rcases misplaced with ⟨reversed, -⟩ | ⟨-, ⟨start, rfl⟩ | ⟨-, last, rfl⟩⟩
    · have inOrder := Position.le_of_lt (start_lt_stop_of_mem_occurrences found)
      exact absurd reversed (Position.not_lt.mpr inOrder)
    · exact ⟨_, .inl rfl, not_not.mp start, rfl⟩
    · exact ⟨_, .inr rfl, not_not.mp last, rfl⟩

end Batch

end Numbering.Buffer
