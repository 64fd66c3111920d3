import Numbering.Proofs.Buffer.ReadingOrder

/-! # Edits one at a time

A batch is applied as a whole, but in a buffer without carriage returns its edits can also be applied
one at a time, from the last to the first. Each edit leaves the characters in front of its span as
they are, so the positions of the edits still to come stay where they are: what the texts put behind
them may be lines of any number, but a position depends on what stands behind it only where a carriage
return stands in front of it. Each of the edits is therefore accepted in the buffer that the ones before
it leave (`applyEach_replaceAll`), and the last one leaves what the batch makes of the buffer
(`applyEach_inReadingOrder`).
-/

namespace Numbering.Buffer

variable {buffer result : Text} {edits : List Edit} {ordered : List Placed}

/-- Edits applied each as a batch of its own, one after another. -/
def applyEach (buffer : Text) (edits : List Edit) : Except EditError Text :=
  edits.foldlM (fun text edit => apply text [edit]) buffer

/-- A batch in reading order, edits of one target as they are listed. -/
def inReadingOrder (edits : List Edit) : List Edit :=
  edits.mergeSort fun first second => first.target.precedes second.target

/-- An edit alone replaces its span. -/
theorem apply_singleton {edit : Edit} {span : Span} (occupies : Occupies buffer edit.target span)
    (inOrder : edit.target.start ≤ edit.target.stop) :
    apply buffer [edit] = .ok (replaceSpan span edit.text buffer) := by
  have found : [edit].mapM (place (lineSpans buffer)) = .ok [⟨span, edit⟩] :=
    mapM_place_eq_ok_iff.mpr ⟨rfl, by simpa using ⟨inOrder, occupies⟩⟩
  exact apply_of_sorted found (List.pairwise_singleton ..) rfl

/-- A target keeps its span when spans behind it are replaced. -/
theorem Occupies.replaceAll {target : Target} {span : Span} (occupies : Occupies buffer target span)
    (noReturn : '\r' ∉ buffer) (proper : span.Proper)
    (staged : Staged buffer span.stop (ordered.map Placed.span)) :
    Occupies (replaceAll buffer ordered) target span := by
  have bare (offset : Nat) : (buffer.take offset).getLast? ≠ some '\r' :=
    fun last => noReturn (List.mem_of_mem_take (List.mem_of_getLast? last))
  have stop := take_replaceAll staged
  have start := congrArg (List.take span.start) stop
  rw [List.take_take, List.take_take, Nat.min_eq_left proper] at start
  exact ⟨occupies.1.of_take_eq start (bare _), occupies.2.of_take_eq stop (bare _)⟩

/-- Edits whose spans come one after another are accepted one at a time, from the last to the first. -/
theorem applyEach_replaceAll (noReturn : '\r' ∉ buffer) {offset : Nat}
    (staged : Staged buffer offset (ordered.map Placed.span))
    (occupied : ∀ placed ∈ ordered, Occupies buffer placed.edit.target placed.span) :
    applyEach buffer (ordered.map Placed.edit).reverse = .ok (replaceAll buffer ordered) := by
  rw [applyEach, List.foldlM_reverse]
  induction ordered generalizing offset with
  | nil => rfl
  | cons placed others ih =>
    cases staged with
    | cons ahead proper inside later =>
      have here := occupied placed List.mem_cons_self
      have behind := ih later fun edit member => occupied edit (List.mem_cons_of_mem _ member)
      have accepted := apply_singleton (here.replaceAll noReturn proper later)
        ((here.1.le_iff here.2).mp proper)
      rw [List.map_cons, List.foldrM_cons, behind]
      exact accepted

/-- The arrangement of a batch is its reading order. -/
theorem Arrangement.map_edit (arrangement : Arrangement buffer edits ordered) :
    ordered.map Placed.edit = inReadingOrder edits := by
  obtain ⟨listed, rfl, occupied, arranged⟩ := arrangement
  rw [arranged.unique (arranged_mergeSort listed), inReadingOrder]
  exact List.map_mergeSort fun first member second member' =>
    precedes_eq_of_occupies (occupied first member) (occupied second member')

/-- In a buffer without carriage returns the edits of a batch that is applied are also applied one at
a time, from the last in reading order to the first, with the same result. -/
theorem applyEach_inReadingOrder (noReturn : '\r' ∉ buffer)
    (applied : apply buffer edits = .ok result) :
    applyEach buffer (inReadingOrder edits).reverse = .ok result := by
  obtain ⟨ordered, arrangement, staged, rfl⟩ := apply_eq_ok_iff_staged.mp applied
  rw [← arrangement.map_edit]
  obtain ⟨listed, -, occupied, arranged⟩ := arrangement
  exact applyEach_replaceAll noReturn staged fun placed member =>
    occupied placed (arranged.perm.mem_iff.mp member)

/-- Two cursors put a line end together, in front of a selection that starts where they stand. -/
theorem applyEach_inReadingOrder_lineEnd :
    let first : Edit := ⟨.cursor ⟨0, 1⟩, ['\r']⟩
    let second : Edit := ⟨.cursor ⟨0, 1⟩, ['\n']⟩
    let selection : Edit := ⟨⟨⟨0, 1⟩, ⟨0, 2⟩⟩, ['x']⟩
    '\r' ∉ ['a', 'b'] ∧
      apply ['a', 'b'] [first, second, selection] = .ok ['a', '\r', '\n', 'x'] ∧
      inReadingOrder [first, second, selection] = [first, second, selection] ∧
      applyEach ['a', 'b'] [selection, second, first] = .ok ['a', '\r', '\n', 'x'] := by
  intro first second selection
  have found : [first, second, selection].mapM (place (lineSpans ['a', 'b'])) =
      .ok [⟨⟨1, 1⟩, first⟩, ⟨⟨1, 1⟩, second⟩, ⟨⟨1, 2⟩, selection⟩] := by decide
  have applied : apply ['a', 'b'] [first, second, selection] = .ok ['a', '\r', '\n', 'x'] :=
    apply_of_sorted found (by decide) (by decide)
  have sorted : inReadingOrder [first, second, selection] = [first, second, selection] :=
    List.mergeSort_of_pairwise (by decide)
  have noReturn : '\r' ∉ ['a', 'b'] := by decide
  have each := applyEach_inReadingOrder noReturn applied
  rw [sorted] at each
  exact ⟨noReturn, applied, sorted, each⟩

end Numbering.Buffer
