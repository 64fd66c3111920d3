import Numbering.Proofs.Buffer.Apply

/-! # Targets in reading order

Reading order tells any two different targets apart, so a list of targets can be put into it in one
way only, whatever the order in which it is given (`mergeSort_eq_of_perm`). In a buffer it is the
order of the spans that the targets name. A batch that is listed in reading order is therefore
applied as it is listed, its texts one after another between the pieces of the buffer
(`exists_spans_of_apply`).
-/

namespace Numbering

theorem Position.eq_iff {first second : Position} :
    first = second ↔ first.line = second.line ∧ first.column = second.column := by
  cases first
  cases second
  exact Iff.of_eq (Position.mk.injEq ..)

namespace Target

theorem precedes_iff {first second : Target} :
    first.precedes second = true ↔
      first.start < second.start ∨ first.start = second.start ∧ first.stop ≤ second.stop :=
  decide_eq_true_iff

theorem precedes_trans (first second third : Target) (before : first.precedes second = true)
    (after : second.precedes third = true) : first.precedes third = true := by
  rw [precedes_iff, Position.lt_iff, Position.le_iff] at before after ⊢
  simp only [Position.eq_iff] at before after ⊢
  omega

theorem precedes_total (first second : Target) :
    (first.precedes second || second.precedes first) = true := by
  rw [Bool.or_eq_true, precedes_iff, precedes_iff]
  simp only [Position.lt_iff, Position.le_iff, Position.eq_iff]
  omega

theorem eq_of_precedes {first second : Target} (before : first.precedes second = true)
    (after : second.precedes first = true) : first = second := by
  cases first
  cases second
  rw [precedes_iff] at before after
  simp only [Position.lt_iff, Position.le_iff, Position.eq_iff] at before after
  simp only [Target.mk.injEq, Position.eq_iff]
  omega

/-- Targets of which each stands before the ones behind it, or in the same place. -/
def InReadingOrder (targets : List Target) : Prop :=
  targets.Pairwise fun first second => first.precedes second = true

instance (targets : List Target) : Decidable (InReadingOrder targets) :=
  inferInstanceAs (Decidable (targets.Pairwise _))

theorem inReadingOrder_mergeSort (targets : List Target) :
    InReadingOrder (targets.mergeSort precedes) :=
  List.pairwise_mergeSort precedes_trans precedes_total targets

/-- Targets have one reading order. -/
theorem InReadingOrder.eq_of_perm {first second : List Target} (one : InReadingOrder first)
    (two : InReadingOrder second) (perm : first.Perm second) : first = second :=
  perm.eq_of_pairwise (fun _ _ _ _ before after => eq_of_precedes before after) one two

/-- Sorting does not see the order in which targets are given. -/
theorem mergeSort_eq_of_perm {targets others : List Target} (perm : others.Perm targets) :
    others.mergeSort precedes = targets.mergeSort precedes := by
  refine (inReadingOrder_mergeSort others).eq_of_perm (inReadingOrder_mergeSort targets) ?_
  exact (List.mergeSort_perm others precedes).trans
    (perm.trans (List.mergeSort_perm targets precedes).symm)

end Target

namespace Buffer

open Target (InReadingOrder)

variable {buffer result : Text} {edits : List Edit} {listed : List Placed}

/-- Reading order is the order of spans. -/
theorem precedes_eq_of_occupies {first second : Placed}
    (one : Occupies buffer first.edit.target first.span)
    (two : Occupies buffer second.edit.target second.span) :
    first.precedes second = first.edit.target.precedes second.edit.target := by
  have level : first.span.start = second.span.start ↔
      first.edit.target.start = second.edit.target.start :=
    ⟨fun same => one.1.position_eq (same ▸ two.1), fun same => one.1.unique (same ▸ two.1)⟩
  rw [Bool.eq_iff_iff, precedes_iff, Target.precedes_iff, one.1.lt_iff two.1, level,
    one.2.le_iff two.2]

/-- A batch that is listed in reading order is its own arrangement. -/
theorem arrangement_of_inReadingOrder
    (occupied : ∀ placed ∈ listed, Occupies buffer placed.edit.target placed.span)
    (sorted : InReadingOrder (listed.map (·.edit.target))) :
    Arrangement buffer (listed.map Placed.edit) listed := by
  refine ⟨listed, rfl, occupied, .refl listed, ?_, fun _ => rfl⟩
  exact (List.pairwise_map.mp sorted).imp_of_mem fun member member' before =>
    (precedes_eq_of_occupies (occupied _ member) (occupied _ member')).trans before

/-- A batch listed in reading order puts its texts, as they are listed, between the pieces that its
spans leave of the buffer. -/
theorem exists_spans_of_apply (applied : apply buffer edits = .ok result)
    (sorted : InReadingOrder (edits.map Edit.target)) :
    ∃ spans, List.Forall₂ (Occupies buffer) (edits.map Edit.target) spans ∧
      Staged buffer 0 spans ∧
      buffer = weave (pieces buffer 0 spans)
        (spans.map fun span => buffer.extract span.start span.stop) ∧
      result = weave (pieces buffer 0 spans) (edits.map Edit.text) := by
  obtain ⟨listed, found, -⟩ := acceptable_iff.mp (exists_apply_eq_ok_iff.mp ⟨result, applied⟩)
  obtain ⟨rfl, fits⟩ := mapM_place_eq_ok_iff.mp found
  have occupied : ∀ placed ∈ listed, Occupies buffer placed.edit.target placed.span :=
    fun placed member => (fits placed member).2
  rw [List.map_map] at sorted
  have arrangement := arrangement_of_inReadingOrder occupied sorted
  obtain ⟨ordered, arrangement', staged, -⟩ := exists_arrangement_of_apply applied
  obtain rfl := arrangement'.unique arrangement
  obtain ⟨-, whole, woven⟩ := eq_replaceAll_of_apply applied arrangement
  refine ⟨ordered.map Placed.span, ?_, staged, ?_, ?_⟩
  · rw [List.map_map, List.forall₂_map_left_iff, List.forall₂_map_right_iff, List.forall₂_same]
    exact occupied
  · rw [List.map_map]
    exact whole
  · rw [List.map_map]
    exact woven

end Buffer

end Numbering
