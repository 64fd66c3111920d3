import Numbering.Proofs.Buffer.Arrangement

/-! # Spans that overlap

Two spans overlap if they share a character, or if one of them is a cursor strictly inside the
other. Spans that only touch do not, and neither do cursors at one place. In a batch in the order of its
spans it is enough to look at neighbours: `pairwise_clear_iff` says that none of them begins before
the one in front of it has ended exactly if no two edits of the batch overlap, wherever they are
listed, and `firstOverlap?_arranged_eq_none_iff` that the check of neighbours decides it.
-/

namespace Numbering.Buffer

/-- The characters of a span, named by the offset in front of them. -/
def Span.Covers (span : Span) (place : Nat) : Prop :=
  span.start ≤ place ∧ place < span.stop

/-- A cursor with characters of a span on both of its sides. -/
def Span.CursorInside (cursor span : Span) : Prop :=
  cursor.start = cursor.stop ∧ span.start < cursor.start ∧ cursor.start < span.stop

/-- Two spans share a character, or one is a cursor strictly inside the other. -/
def Span.Overlaps (first second : Span) : Prop :=
  (∃ place, first.Covers place ∧ second.Covers place) ∨
    first.CursorInside second ∨ second.CursorInside first

theorem Span.Overlaps.symm {first second : Span} (overlap : first.Overlaps second) :
    second.Overlaps first := by
  rcases overlap with ⟨place, here, there⟩ | inside | around
  · exact .inl ⟨place, there, here⟩
  · exact .inr (.inr inside)
  · exact .inr (.inl around)

/-- A span that begins where another has ended, or later, is clear of it. -/
theorem Span.not_overlaps_of_le {first second : Span} (clear : first.stop ≤ second.start) :
    ¬ first.Overlaps second := by
  rintro (⟨place, here, there⟩ | inside | around)
  · unfold Span.Covers at here there
    omega
  · unfold Span.CursorInside at inside
    omega
  · unfold Span.CursorInside at around
    omega

/-- A span that does not end before it starts. -/
def Span.Proper (span : Span) : Prop :=
  span.start ≤ span.stop

/-- Of two spans in order, the second begins after the first has ended exactly if they are free of
overlap. -/
theorem stop_le_start_iff {first second : Placed} (proper : second.span.Proper)
    (before : first.precedes second = true) :
    first.span.stop ≤ second.span.start ↔ ¬ first.span.Overlaps second.span := by
  rw [precedes_iff] at before
  unfold Span.Proper at proper
  constructor
  · exact Span.not_overlaps_of_le
  · intro clear
    by_contra crossing
    apply clear
    by_cases cursor : second.span.start = second.span.stop
    · exact .inr (.inr ⟨cursor, by omega, by omega⟩)
    · exact .inl ⟨second.span.start, ⟨by omega, by omega⟩, ⟨Nat.le_refl _, by omega⟩⟩

/-- Neighbours that are clear of each other make all pairs clear of each other. -/
theorem firstOverlap?_eq_none_iff {placed : List Placed}
    (proper : ∀ edit ∈ placed, edit.span.Proper) :
    firstOverlap? placed = none ↔
      placed.Pairwise fun first second => first.span.stop ≤ second.span.start := by
  induction placed with
  | nil => simp [firstOverlap?]
  | cons first others ih =>
    cases others with
    | nil => simp [firstOverlap?]
    | cons second rest =>
      have tail := ih fun edit member => proper edit (List.mem_cons_of_mem _ member)
      have middle : second.span.start ≤ second.span.stop := proper second (by simp)
      rw [firstOverlap?]
      constructor
      · intro clear
        split at clear
        · cases clear
        · rename_i apart
          have later := tail.mp clear
          refine List.pairwise_cons.mpr ⟨?_, later⟩
          intro edit member
          rcases List.mem_cons.mp member with rfl | member
          · omega
          · have beyond := (List.pairwise_cons.mp later).1 edit member
            omega
      · intro clear
        obtain ⟨ahead, later⟩ := List.pairwise_cons.mp clear
        have apart := ahead second (by simp)
        rw [if_neg (by omega)]
        exact tail.mpr later

/-- Looking at the arranged batch finds every overlap of the listed one. -/
theorem pairwise_clear_iff {listed ordered : List Placed} (arranged : Arranged listed ordered)
    (proper : ∀ edit ∈ listed, edit.span.Proper) :
    (ordered.Pairwise fun first second => first.span.stop ≤ second.span.start) ↔
      listed.Pairwise fun first second => ¬ first.span.Overlaps second.span := by
  rw [← arranged.perm.pairwise_iff fun clear overlap => clear overlap.symm]
  have within (edit : Placed) (member : edit ∈ ordered) : edit.span.Proper :=
    proper edit (arranged.perm.mem_iff.mp member)
  constructor
  · intro clear
    exact (clear.and arranged.sorted).imp_of_mem fun _ member ⟨apart, before⟩ =>
      (stop_le_start_iff (within _ member) before).mp apart
  · intro clear
    exact (clear.and arranged.sorted).imp_of_mem fun _ member ⟨apart, before⟩ =>
      (stop_le_start_iff (within _ member) before).mpr apart

/-- The check of neighbours in the arranged batch finds none exactly if no two edits overlap. -/
theorem firstOverlap?_arranged_eq_none_iff {listed ordered : List Placed}
    (arranged : Arranged listed ordered) (proper : ∀ edit ∈ listed, edit.span.Proper) :
    firstOverlap? ordered = none ↔
      listed.Pairwise fun first second => ¬ first.span.Overlaps second.span := by
  rw [← pairwise_clear_iff arranged proper]
  exact firstOverlap?_eq_none_iff fun edit member => proper edit (arranged.perm.mem_iff.mp member)

end Numbering.Buffer
