import Numbering.Proofs.Buffer.Faults
import Numbering.Proofs.Buffer.OneByOne

/-! # Why a batch is refused

Two orders decide which fault of a batch is reported. The edits are first looked at as they are
listed, and the first whose target does not fit the buffer is the fault. Only if all of them fit are
overlaps looked for, in reading order and between neighbours: the first two neighbours of which the
second begins before the first has ended are the fault. They overlap, and no two of the edits up to
the first of them do (`apply_eq_error_iff_first_fault`).
-/

namespace Numbering.Buffer

variable {buffer : Text} {edits : List Edit} {edit : Edit} {fault : EditError}
  {listed ordered : List Placed}

/-! ## Targets that do not fit -/

/-- Why a target does not fit a buffer: its order is looked at first, then its start, then its end. -/
inductive Misfit (buffer : Text) (target : Target) : EditError → Prop
  | reversed (reversed : target.stop < target.start) : Misfit buffer target (.reversed target)
  | start (inOrder : target.start ≤ target.stop) (outside : ¬ Contains buffer target.start) :
      Misfit buffer target (.outOfBounds target.start)
  | stop (inOrder : target.start ≤ target.stop) (inside : Contains buffer target.start)
      (outside : ¬ Contains buffer target.stop) : Misfit buffer target (.outOfBounds target.stop)

theorem Misfit.not_fits {target : Target} (misfit : Misfit buffer target fault) :
    ¬ Fits buffer target := by
  rintro ⟨inOrder, start, stop⟩
  cases misfit with
  | reversed reversed => exact Position.not_lt.mpr inOrder reversed
  | start _ outside => exact outside start
  | stop _ _ outside => exact outside stop

theorem place_eq_error_iff_misfit :
    place (lineSpans buffer) edit = .error fault ↔ Misfit buffer edit.target fault := by
  rw [place_eq_error_iff]
  constructor
  · rintro (⟨reversed, rfl⟩ | ⟨inOrder, ⟨outside, rfl⟩ | ⟨inside, outside, rfl⟩⟩)
    · exact .reversed reversed
    · exact .start inOrder outside
    · exact .stop inOrder inside outside
  · intro misfit
    cases misfit with
    | reversed reversed => exact .inl ⟨reversed, rfl⟩
    | start inOrder outside => exact .inr ⟨inOrder, .inl ⟨outside, rfl⟩⟩
    | stop inOrder inside outside => exact .inr ⟨inOrder, .inr ⟨inside, outside, rfl⟩⟩

/-- The spans of a batch are not found because of the first edit, as listed, that does not fit. -/
theorem mapM_place_eq_error_iff :
    edits.mapM (place (lineSpans buffer)) = .error fault ↔ ∃ front edit back,
      edits = front ++ edit :: back ∧ (∀ earlier ∈ front, Fits buffer earlier.target) ∧
        Misfit buffer edit.target fault := by
  simp only [mapM_eq_error_iff, exists_place_eq_ok_iff, place_eq_error_iff_misfit]

/-! ## The first overlap -/

/-- Two spans share a character, or the second is a cursor strictly inside the first. -/
def Span.RunsInto (first second : Span) : Prop :=
  (∃ place, first.Covers place ∧ second.Covers place) ∨ second.CursorInside first

/-- Of two targets in a buffer, the span of the first runs into that of the second. -/
def TargetRunsInto (buffer : Text) (first second : Target) : Prop :=
  ∃ span other, Occupies buffer first span ∧ Occupies buffer second other ∧ span.RunsInto other

/-- A span cannot be a cursor inside another that stands behind it. -/
theorem overlaps_iff_runsInto {first second : Placed} (before : first.precedes second = true) :
    first.span.Overlaps second.span ↔ first.span.RunsInto second.span := by
  rw [precedes_iff] at before
  constructor
  · rintro (shared | ⟨-, inside, -⟩ | around)
    · exact .inl shared
    · omega
    · exact .inr around
  · rintro (shared | around)
    · exact .inl shared
    · exact .inr (.inr around)

theorem targetRunsInto_iff {first second : Target} {span other : Span}
    (one : Occupies buffer first span) (two : Occupies buffer second other) :
    TargetRunsInto buffer first second ↔ span.RunsInto other := by
  constructor
  · rintro ⟨span', other', one', two', into⟩
    rwa [one.unique one', two.unique two']
  · exact fun into => ⟨span, other, one, two, into⟩

/-- Neighbours can be looked at on both sides of an edit that belongs to both. -/
theorem firstOverlap?_append_cons (front : List Placed) (middle : Placed) (back : List Placed) :
    firstOverlap? (front ++ middle :: back) =
      (firstOverlap? (front ++ [middle])).or (firstOverlap? (middle :: back)) := by
  induction front with
  | nil => rfl
  | cons head front ih =>
    cases front with
    | nil =>
      simp only [List.nil_append, List.cons_append, firstOverlap?]
      split <;> rfl
    | cons next rest =>
      simp only [List.cons_append] at ih ⊢
      rw [firstOverlap?, firstOverlap?, ih]
      split <;> rfl

/-- The overlap that is found is the first: up to it there is none. -/
theorem firstOverlap?_eq_some_iff {pair : Target × Target} :
    firstOverlap? ordered = some pair ↔ ∃ front first second back,
      ordered = front ++ first :: second :: back ∧ firstOverlap? (front ++ [first]) = none ∧
        second.span.start < first.span.stop ∧ pair = (first.edit.target, second.edit.target) := by
  constructor
  · intro found
    induction ordered with
    | nil => cases found
    | cons first others ih =>
      cases others with
      | nil => cases found
      | cons second rest =>
        rw [firstOverlap?] at found
        split at found
        · rename_i crossing
          exact ⟨[], first, second, rest, rfl, rfl, crossing, (Option.some.inj found).symm⟩
        · rename_i apart
          obtain ⟨front, one, other, back, split, clear, crossing, same⟩ := ih found
          refine ⟨first :: front, one, other, back, congrArg (first :: ·) split, ?_, crossing, same⟩
          obtain ⟨between, begins⟩ : ∃ between, front ++ [one] = second :: between := by
            cases front with
            | nil => exact ⟨[], by rw [(List.cons.inj split).1]; rfl⟩
            | cons head front => exact ⟨front ++ [one], by rw [(List.cons.inj split).1]; rfl⟩
          rw [List.cons_append, begins, firstOverlap?, if_neg apart, ← begins, clear]
  · rintro ⟨front, first, second, back, rfl, clear, crossing, rfl⟩
    rw [firstOverlap?_append_cons, clear, Option.none_or, firstOverlap?, if_pos crossing]

theorem precedes_of_cut {front back : List Placed} {first second : Placed}
    (sorted : (front ++ first :: second :: back).Pairwise (Placed.precedes · ·)) :
    first.precedes second = true := by
  obtain ⟨-, opened, -⟩ := List.pairwise_append.mp sorted
  exact (List.pairwise_cons.mp opened).1 second List.mem_cons_self

/-- In an arranged batch the overlap that is found is one, and there is none up to it. -/
theorem firstOverlap?_arranged_eq_some_iff (arranged : Arranged listed ordered)
    (proper : ∀ edit ∈ listed, edit.span.Proper) {pair : Target × Target} :
    firstOverlap? ordered = some pair ↔ ∃ front first second back,
      ordered = front ++ first :: second :: back ∧
        ((front ++ [first]).Pairwise fun one other => ¬ one.span.Overlaps other.span) ∧
          first.span.RunsInto second.span ∧ pair = (first.edit.target, second.edit.target) := by
  rw [firstOverlap?_eq_some_iff]
  refine exists₄_congr fun front first second back => and_congr_right fun split => ?_
  subst split
  have within (edit : Placed) (member : edit ∈ front ++ first :: second :: back) :
      edit.span.Proper := proper edit (arranged.perm.mem_iff.mp member)
  have part : (front ++ [first]).Sublist (front ++ first :: second :: back) :=
    List.Sublist.append_left (List.singleton_sublist.mpr List.mem_cons_self) front
  have before := precedes_of_cut arranged.sorted
  have clear : firstOverlap? (front ++ [first]) = none ↔
      (front ++ [first]).Pairwise fun one other => ¬ one.span.Overlaps other.span :=
    firstOverlap?_arranged_eq_none_iff
      ⟨.refl _, arranged.sorted.sublist part, fun _ => rfl⟩
      fun edit member => within edit (part.subset member)
  have crossing : second.span.start < first.span.stop ↔ first.span.RunsInto second.span := by
    rw [← overlaps_iff_runsInto before, ← Nat.not_le, not_iff_comm]
    exact (stop_le_start_iff (within second (by simp)) before).symm
  rw [clear, crossing]

/-- What is said of the spans around a cut of a batch can be said of its targets. -/
theorem cut_targets {front back : List Placed} {first second : Placed}
    (occupied : ∀ placed ∈ front ++ first :: second :: back,
      Occupies buffer placed.edit.target placed.span)
    (sorted : (front ++ first :: second :: back).Pairwise (Placed.precedes · ·)) :
    first.edit.target.precedes second.edit.target = true ∧
      (TargetRunsInto buffer first.edit.target second.edit.target ↔
        first.span.RunsInto second.span) ∧
      ((front.map Placed.edit ++ [first.edit]).Pairwise (fun one other =>
          ¬ TargetsOverlap buffer one.target other.target) ↔
        (front ++ [first]).Pairwise fun one other => ¬ one.span.Overlaps other.span) := by
  have one := occupied first (by simp)
  have two := occupied second (by simp)
  have before := precedes_of_cut sorted
  have early : ∀ placed ∈ front ++ [first], Occupies buffer placed.edit.target placed.span := by
    intro placed member
    rcases List.mem_append.mp member with ahead | last
    · exact occupied placed (List.mem_append_left _ ahead)
    · rwa [List.mem_singleton.mp last]
  refine ⟨precedes_eq_of_occupies one two ▸ before, targetRunsInto_iff one two, ?_⟩
  rw [← pairwise_targets_iff early, List.map_append, List.map_singleton]

/-- With all spans found, a batch is refused for the first overlap in reading order. -/
theorem apply_eq_error_iff_of_placed
    (found : edits.mapM (place (lineSpans buffer)) = .ok listed) :
    apply buffer edits = .error fault ↔ ∃ front first second back,
      inReadingOrder edits = front ++ first :: second :: back ∧
        fault = .overlap first.target second.target ∧
        first.target.precedes second.target = true ∧
        TargetRunsInto buffer first.target second.target ∧
        (front ++ [first]).Pairwise fun one other =>
          ¬ TargetsOverlap buffer one.target other.target := by
  obtain ⟨same, fits⟩ := mapM_place_eq_ok_iff.mp found
  have arranged := arranged_mergeSort listed
  have occupied : ∀ placed ∈ listed.mergeSort Placed.precedes,
      Occupies buffer placed.edit.target placed.span :=
    fun placed member => (fits placed (arranged.perm.mem_iff.mp member)).2
  have reading : (listed.mergeSort Placed.precedes).map Placed.edit = inReadingOrder edits :=
    Arrangement.map_edit ⟨listed, same, fun placed member => (fits placed member).2, arranged⟩
  have refused : apply buffer edits = .error fault ↔ ∃ pair,
      firstOverlap? (listed.mergeSort Placed.precedes) = some pair ∧
        fault = .overlap pair.1 pair.2 := by
    rw [apply_of_placed found]
    cases firstOverlap? (listed.mergeSort Placed.precedes) <;> simp [eq_comm]
  have sorted := arranged.sorted
  simp only [refused, firstOverlap?_arranged_eq_some_iff arranged
    fun placed member => (fits placed member).2.proper (fits placed member).1, ← reading]
  constructor
  · rintro ⟨-, ⟨front, first, second, back, split, clear, into, rfl⟩, rfl⟩
    rw [split] at occupied sorted ⊢
    obtain ⟨before, crossing, apart⟩ := cut_targets occupied sorted
    exact ⟨front.map Placed.edit, first.edit, second.edit, back.map Placed.edit, by simp, rfl,
      before, crossing.mpr into, apart.mpr clear⟩
  · rintro ⟨front, first, second, back, split, rfl, -, into, clear⟩
    obtain ⟨front, others, whole, rfl, opened⟩ := List.map_eq_append_iff.mp split
    obtain ⟨first, rest, rfl, rfl, later⟩ := List.map_eq_cons_iff.mp opened
    obtain ⟨second, back, rfl, rfl, -⟩ := List.map_eq_cons_iff.mp later
    rw [whole] at occupied sorted
    obtain ⟨-, crossing, apart⟩ := cut_targets occupied sorted
    exact ⟨_, ⟨front, first, second, back, whole, apart.mp clear, crossing.mp into, rfl⟩, rfl⟩

/-- A batch is refused for the first edit, as listed, whose target does not fit the buffer: it ends
before it starts, or else its start is outside, or else its end is. If all fit, it is refused for two
neighbours in reading order of which the first runs into the second, while no two edits up to the
first overlap. -/
theorem apply_eq_error_iff_first_fault (buffer : Text) (edits : List Edit) (fault : EditError) :
    apply buffer edits = .error fault ↔
      (∃ front edit back, edits = front ++ edit :: back ∧
        (∀ earlier ∈ front, Fits buffer earlier.target) ∧ Misfit buffer edit.target fault) ∨
      (∀ edit ∈ edits, Fits buffer edit.target) ∧ ∃ front first second back,
        inReadingOrder edits = front ++ first :: second :: back ∧
          fault = .overlap first.target second.target ∧
          first.target.precedes second.target = true ∧
          TargetRunsInto buffer first.target second.target ∧
          (front ++ [first]).Pairwise fun one other =>
            ¬ TargetsOverlap buffer one.target other.target := by
  rw [← mapM_place_eq_error_iff]
  cases found : edits.mapM (place (lineSpans buffer)) with
  | error first =>
    obtain ⟨front, edit, back, rfl, -, misfit⟩ := mapM_place_eq_error_iff.mp found
    have unfit : ¬ ∀ other ∈ front ++ edit :: back, Fits buffer other.target :=
      fun all => misfit.not_fits (all edit (by simp))
    rw [apply_of_misplaced found, Except.error.injEq, Except.error.injEq]
    simp only [unfit, false_and, or_false]
  | ok listed =>
    rw [apply_eq_error_iff_of_placed found, and_iff_right (exists_mapM_place_iff.mp ⟨_, found⟩)]
    simp only [reduceCtorEq, false_or]

end Numbering.Buffer
