import Numbering.Proofs.Buffer.ReadingOrder

/-! # The order in which a batch is listed

Spans that come one after another leave the listing nothing to decide but the order of cursors at one
position: an edit with characters in its span is the only one of that span, and those without are
cursors at one position. Listing the same edits in another order, with the cursors of each position
in theirs, therefore has the same arrangement and is applied alike (`apply_eq_ok_iff_of_perm`).
-/

namespace Numbering.Buffer

variable {buffer : Text} {edits others : List Edit} {listed ordered : List Placed}

/-- The cursors at a position, as a batch lists them. -/
def cursorsAt (position : Position) (edits : List Edit) : List Edit :=
  edits.filter (·.target = .cursor position)

/-- The edits of a span without characters are those at one cursor. -/
theorem span_eq_iff_of_cursor {position : Position} {placed : Placed} {offset : Nat}
    (occupies : Occupies buffer placed.edit.target placed.span)
    (lies : LiesAt buffer position offset) :
    placed.span = ⟨offset, offset⟩ ↔ placed.edit.target = .cursor position := by
  constructor
  · intro flat
    rw [Occupies, flat] at occupies
    exact congrArg₂ Target.mk (occupies.1.position_eq lies) (occupies.2.position_eq lies)
  · intro cursor
    rw [cursor] at occupies
    exact occupies.unique ⟨lies, lies⟩

theorem filter_cursor_map_locate (position : Position) (edits : List Edit) :
    (edits.map (locate buffer)).filter (·.edit.target = .cursor position) =
      (cursorsAt position edits).map (locate buffer) := by
  rw [List.filter_map]
  rfl

/-- Two edits of one span with characters in it overlap. -/
theorem Span.overlaps_self {span : Span} (filled : span.start < span.stop) : span.Overlaps span :=
  .inl ⟨span.start, ⟨Nat.le_refl _, filled⟩, ⟨Nat.le_refl _, filled⟩⟩

/-- Of edits that do not overlap at most one has a given span with characters in it. -/
theorem pairwise_filter_span {span : Span} (filled : span.start < span.stop)
    (clear : listed.Pairwise fun first second => ¬ first.span.Overlaps second.span) :
    (listed.filter (·.span = span)).Pairwise fun _ _ => False := by
  apply (clear.sublist List.filter_sublist).imp_of_mem
  intro first second member member' apart
  rw [of_decide_eq_true (List.mem_filter.mp member).2,
    of_decide_eq_true (List.mem_filter.mp member').2] at apart
  exact apart (Span.overlaps_self filled)

/-- Edits with the same cursors at every position are the same at every span. -/
theorem filter_span_eq_of_perm {relisted : List Placed} (perm : relisted.Perm listed)
    (occupied : ∀ placed ∈ listed, Occupies buffer placed.edit.target placed.span)
    (proper : ∀ placed ∈ listed, placed.span.Proper)
    (clear : listed.Pairwise fun first second => ¬ first.span.Overlaps second.span)
    (cursors : ∀ position, relisted.filter (·.edit.target = .cursor position) =
      listed.filter (·.edit.target = .cursor position)) (span : Span) :
    relisted.filter (·.span = span) = listed.filter (·.span = span) := by
  by_cases found : ∃ placed ∈ listed, placed.span = span
  · obtain ⟨placed, member, rfl⟩ := found
    rcases Nat.lt_or_eq_of_le (proper placed member) with filled | flat
    · have clear' := (perm.pairwise_iff fun apart overlap => apart overlap.symm).mpr clear
      exact (perm.filter _).eq_of_pairwise (fun _ _ _ _ impossible => impossible.elim)
        (pairwise_filter_span filled clear') (pairwise_filter_span filled clear)
    · have same : placed.span = ⟨placed.span.start, placed.span.start⟩ :=
        congrArg (Span.mk placed.span.start) flat.symm
      have selected (batch : List Placed) (inside : ∀ edit ∈ batch, edit ∈ listed) :
          batch.filter (·.span = placed.span) =
            batch.filter (·.edit.target = .cursor placed.edit.target.start) := by
        apply List.filter_congr
        intro edit here
        rw [same, decide_eq_decide]
        exact span_eq_iff_of_cursor (occupied edit (inside edit here)) (occupied placed member).1
      rw [selected relisted fun edit here => perm.mem_iff.mp here, selected listed fun _ here => here,
        cursors]
  · have absent (batch : List Placed) (inside : ∀ edit ∈ batch, edit ∈ listed) :
        batch.filter (·.span = span) = [] := by
      apply List.filter_eq_nil_iff.mpr
      intro edit here same
      exact found ⟨edit, inside edit here, of_decide_eq_true same⟩
    rw [absent relisted fun edit here => perm.mem_iff.mp here, absent listed fun _ here => here]

/-- A batch whose spans come one after another keeps its arrangement when it is listed in another
order, the cursors at every position staying in theirs. -/
theorem Arrangement.of_perm (arrangement : Arrangement buffer edits ordered)
    (staged : Staged buffer 0 (ordered.map Placed.span)) (perm : others.Perm edits)
    (cursors : ∀ position, cursorsAt position others = cursorsAt position edits) :
    Arrangement buffer others ordered := by
  obtain ⟨listed, rfl, occupied, arranged⟩ := arrangement
  obtain ⟨-, clear, each⟩ := staged_iff_pairwise.mp staged
  have located : (listed.map Placed.edit).map (locate buffer) = listed := by
    rw [List.map_map]
    exact (List.map_congr_left fun placed member => (eq_locate (occupied placed member)).symm).trans
      (List.map_id listed)
  have proper : ∀ placed ∈ listed, placed.span.Proper := fun placed member =>
    (each _ (List.mem_map_of_mem (arranged.perm.mem_iff.mpr member))).2.1
  have relisted : (others.map (locate buffer)).Perm listed := by
    have moved := perm.map (locate buffer)
    rwa [located] at moved
  have same : ∀ span, (others.map (locate buffer)).filter (·.span = span) =
      listed.filter (·.span = span) := by
    apply filter_span_eq_of_perm relisted occupied proper
    · exact (pairwise_clear_iff arranged proper).mp (List.pairwise_map.mp clear)
    · intro position
      rw [filter_cursor_map_locate, cursors, ← filter_cursor_map_locate, located]
  refine ⟨others.map (locate buffer), ?_, ?_, ?_, arranged.sorted, ?_⟩
  · rw [List.map_map]
    exact List.map_id others
  · exact fun placed member => occupied placed (relisted.mem_iff.mp member)
  · exact arranged.perm.trans relisted.symm
  · exact fun span => (arranged.stable span).trans (same span).symm

/-- The order of the listing matters among the cursors of one position only: with these in the same
order, two listings of a batch are both applied, to the same result, or both refused. -/
theorem apply_eq_ok_iff_of_perm (buffer : Text) {edits others : List Edit}
    (perm : others.Perm edits)
    (cursors : ∀ position, cursorsAt position others = cursorsAt position edits) :
    ((∃ result, apply buffer others = .ok result) ↔ ∃ result, apply buffer edits = .ok result) ∧
      ∀ result, apply buffer others = .ok result ↔ apply buffer edits = .ok result := by
  have alike (result : Text) :
      apply buffer others = .ok result ↔ apply buffer edits = .ok result := by
    rw [apply_eq_ok_iff_staged, apply_eq_ok_iff_staged]
    constructor
    · rintro ⟨ordered, arrangement, staged, same⟩
      exact ⟨ordered,
        arrangement.of_perm staged perm.symm fun position => (cursors position).symm, staged, same⟩
    · rintro ⟨ordered, arrangement, staged, same⟩
      exact ⟨ordered, arrangement.of_perm staged perm cursors, staged, same⟩
  exact ⟨exists_congr alike, alike⟩

/-- A selection listed behind two cursors at its start, and in front of them. -/
theorem apply_eq_ok_iff_of_perm_selection :
    let selection : Edit := ⟨⟨⟨0, 0⟩, ⟨0, 2⟩⟩, ['x']⟩
    let first : Edit := ⟨.cursor ⟨0, 0⟩, ['1']⟩
    let second : Edit := ⟨.cursor ⟨0, 0⟩, ['2']⟩
    [selection, first, second].Perm [first, second, selection] ∧
      (∀ position, cursorsAt position [selection, first, second] =
        cursorsAt position [first, second, selection]) ∧
      apply ['a', 'b', 'c'] [first, second, selection] = .ok ['1', '2', 'x', 'c'] ∧
      apply ['a', 'b', 'c'] [selection, first, second] = .ok ['1', '2', 'x', 'c'] := by
  intro selection first second
  have perm : [selection, first, second].Perm [first, second, selection] :=
    show ([selection] ++ [first, second]).Perm ([first, second] ++ [selection]) from
      List.perm_append_comm
  have wide (position : Position) : selection.target ≠ .cursor position := by
    rintro same
    have ends : (⟨0, 0⟩ : Position) = ⟨0, 2⟩ :=
      (congrArg Target.start same).trans (congrArg Target.stop same).symm
    cases ends
  have cursors (position : Position) : cursorsAt position [selection, first, second] =
      cursorsAt position [first, second, selection] := by
    simp [cursorsAt, List.filter_cons, wide position]
  have found : [first, second, selection].mapM (place (lineSpans ['a', 'b', 'c'])) =
      .ok [⟨⟨0, 0⟩, first⟩, ⟨⟨0, 0⟩, second⟩, ⟨⟨0, 2⟩, selection⟩] := by decide
  have applied : apply ['a', 'b', 'c'] [first, second, selection] = .ok ['1', '2', 'x', 'c'] :=
    apply_of_sorted found (by decide) (by decide)
  exact ⟨perm, cursors, applied,
    ((apply_eq_ok_iff_of_perm ['a', 'b', 'c'] perm cursors).2 _).mpr applied⟩

end Numbering.Buffer
