import Mathlib.Data.List.Basic
import Numbering.Buffer.Edit

/-! # The order in which a batch is applied

A batch is applied in the order of its spans, by start and then by end, and edits of one span stay
as they are listed. `Arranged` says so of two lists without naming a sorting method. There is one
such order only (`Arranged.unique`), and sorting finds it (`arranged_mergeSort`).
-/

namespace Numbering.Buffer

/-- A batch in the order of its spans, the edits of each span being as they are listed. -/
structure Arranged (listed ordered : List Placed) : Prop where
  perm : ordered.Perm listed
  sorted : ordered.Pairwise fun first second => first.precedes second
  stable : ∀ span, ordered.filter (·.span = span) = listed.filter (·.span = span)

theorem precedes_iff {first second : Placed} :
    first.precedes second = true ↔ first.span.start < second.span.start ∨
      first.span.start = second.span.start ∧ first.span.stop ≤ second.span.stop :=
  decide_eq_true_iff

theorem precedes_trans (first second third : Placed) (before : first.precedes second = true)
    (after : second.precedes third = true) : first.precedes third = true := by
  rw [precedes_iff] at before after ⊢
  omega

theorem precedes_total (first second : Placed) :
    (first.precedes second || second.precedes first) = true := by
  rw [Bool.or_eq_true, precedes_iff, precedes_iff]
  omega

/-- The edits of one span are in order already, so sorting leaves them as they are. -/
theorem arranged_mergeSort (listed : List Placed) :
    Arranged listed (listed.mergeSort Placed.precedes) where
  perm := List.mergeSort_perm ..
  sorted := List.pairwise_mergeSort precedes_trans precedes_total listed
  stable span := by
    have level : (listed.filter (·.span = span)).Pairwise fun first second =>
        first.precedes second = true := by
      refine List.pairwise_of_forall_mem_list fun first member second member' => ?_
      have here := of_decide_eq_true (List.mem_filter.mp member).2
      have there := of_decide_eq_true (List.mem_filter.mp member').2
      rw [precedes_iff, here, there]
      omega
    have kept := (List.sublist_mergeSort precedes_trans precedes_total level
      List.filter_sublist).filter (·.span = span)
    rw [List.filter_filter] at kept
    simp only [Bool.and_self] at kept
    have sizes := ((List.mergeSort_perm listed Placed.precedes).filter (·.span = span)).length_eq
    exact (kept.eq_of_length sizes.symm).symm

private theorem eq_of_spans_eq {first second : List Placed}
    (spans : first.map Placed.span = second.map Placed.span)
    (level : ∀ span, first.filter (·.span = span) = second.filter (·.span = span)) :
    first = second := by
  induction first generalizing second with
  | nil => exact (List.map_eq_nil_iff.mp spans.symm).symm
  | cons head rest ih =>
    cases second with
    | nil => simp at spans
    | cons head' rest' =>
      obtain ⟨same, tails⟩ := List.cons.inj spans
      have heads := level head.span
      simp only [List.filter_cons, same, decide_true, ↓reduceIte, List.cons.injEq] at heads
      obtain ⟨rfl, -⟩ := heads
      congr 1
      refine ih tails fun span => ?_
      have whole := level span
      simp only [List.filter_cons] at whole
      split at whole
      · exact (List.cons.inj whole).2
      · exact whole

/-- A batch can be arranged in one way only. -/
theorem Arranged.unique {listed first second : List Placed} (one : Arranged listed first)
    (two : Arranged listed second) : first = second := by
  have spans : first.map Placed.span = second.map Placed.span := by
    have perm : (first.map Placed.span).Perm (second.map Placed.span) :=
      (one.perm.trans two.perm.symm).map _
    have antisymm : ∀ a b : Span, a ∈ first.map Placed.span → b ∈ second.map Placed.span →
        (a.start < b.start ∨ a.start = b.start ∧ a.stop ≤ b.stop) →
        (b.start < a.start ∨ b.start = a.start ∧ b.stop ≤ a.stop) → a = b := by
      intro a b _ _ before after
      have start : a.start = b.start := by omega
      have stop : a.stop = b.stop := by omega
      exact congrArg₂ Span.mk start stop
    refine perm.eq_of_pairwise antisymm ?_ ?_
    · exact List.pairwise_map.mpr (one.sorted.imp precedes_iff.mp)
    · exact List.pairwise_map.mpr (two.sorted.imp precedes_iff.mp)
  exact eq_of_spans_eq spans fun span => (one.stable span).trans (two.stable span).symm

end Numbering.Buffer
