import Numbering.Proofs.Buffer.Lines
import Numbering.Proofs.Buffer.Overlap
import Numbering.Proofs.Buffer.Splice
import Numbering.Proofs.Traversal

/-! # Batches of edits

What a batch asks of a buffer is said of its targets alone: each of them is in order and inside the
buffer, and no two of them overlap. `exists_apply_eq_ok_iff` says that a batch is applied exactly
then. A batch has one arrangement (`Arrangement.unique`), and the one that `apply` goes through has
its spans one after another in the buffer (`exists_arrangement_of_apply`). Such an arrangement is all
that it takes (`apply_eq_ok_iff_staged`).
-/

namespace Numbering.Buffer

/-- The span of a target whose ends lie in a buffer. -/
def Occupies (buffer : Text) (target : Target) (span : Span) : Prop :=
  LiesAt buffer target.start span.start ∧ LiesAt buffer target.stop span.stop

/-- Two targets in a buffer have spans that overlap. -/
def TargetsOverlap (buffer : Text) (first second : Target) : Prop :=
  ∃ span other, Occupies buffer first span ∧ Occupies buffer second other ∧ span.Overlaps other

/-- A target that does not end before it starts, with both of its ends in the buffer. -/
structure Fits (buffer : Text) (target : Target) : Prop where
  inOrder : target.start ≤ target.stop
  start : Contains buffer target.start
  stop : Contains buffer target.stop

/-- What a batch has to be like: every target in order and inside the buffer, no two overlapping. -/
structure Acceptable (buffer : Text) (edits : List Edit) : Prop where
  inOrder : ∀ edit ∈ edits, edit.target.start ≤ edit.target.stop
  inside : ∀ edit ∈ edits, Contains buffer edit.target.start ∧ Contains buffer edit.target.stop
  clear : edits.Pairwise fun first second =>
    ¬ TargetsOverlap buffer first.target second.target

/-- The edits of a batch with their spans, in the order in which the spans stand. -/
def Arrangement (buffer : Text) (edits : List Edit) (ordered : List Placed) : Prop :=
  ∃ listed, listed.map Placed.edit = edits ∧
    (∀ placed ∈ listed, Occupies buffer placed.edit.target placed.span) ∧ Arranged listed ordered

/-! ## Finding the spans -/

theorem resolve_eq_ok_iff {buffer : Text} {position : Position} {offset : Nat} :
    resolve (lineSpans buffer) position = .ok offset ↔ LiesAt buffer position offset := by
  rw [← offset?_eq_some_iff, resolve, offset?]
  cases offsetIn? (lineSpans buffer) position <;> simp

theorem place_eq_ok_iff {buffer : Text} {edit : Edit} {placed : Placed} :
    place (lineSpans buffer) edit = .ok placed ↔ placed.edit = edit ∧
      edit.target.start ≤ edit.target.stop ∧ Occupies buffer edit.target placed.span := by
  obtain ⟨⟨start, stop⟩, same⟩ := placed
  rw [place, Occupies, ← resolve_eq_ok_iff, ← resolve_eq_ok_iff, ← Position.not_lt]
  split
  · simp_all
  · rename_i inOrder
    cases resolve (lineSpans buffer) edit.target.start <;>
      cases resolve (lineSpans buffer) edit.target.stop <;>
        simp [bind, Except.bind, pure, Except.pure, inOrder, and_comm, eq_comm]

/-- An edit has a span if its target fits the buffer. -/
theorem exists_place_eq_ok_iff {buffer : Text} {edit : Edit} :
    (∃ placed, place (lineSpans buffer) edit = .ok placed) ↔ Fits buffer edit.target := by
  constructor
  · rintro ⟨placed, found⟩
    obtain ⟨-, inOrder, start, stop⟩ := place_eq_ok_iff.mp found
    exact ⟨inOrder, ⟨_, start⟩, ⟨_, stop⟩⟩
  · rintro ⟨inOrder, ⟨start, lies⟩, ⟨stop, lies'⟩⟩
    exact ⟨⟨⟨start, stop⟩, edit⟩, place_eq_ok_iff.mpr ⟨rfl, inOrder, lies, lies'⟩⟩

theorem exists_mapM_place_iff {buffer : Text} {edits : List Edit} :
    (∃ listed, edits.mapM (place (lineSpans buffer)) = .ok listed) ↔
      ∀ edit ∈ edits, Fits buffer edit.target := by
  simp only [exists_mapM_eq_ok_iff, exists_place_eq_ok_iff]

/-- The spans of a batch are found exactly if its targets are in order and inside the buffer. -/
theorem mapM_place_eq_ok_iff {buffer : Text} {edits : List Edit} {listed : List Placed} :
    edits.mapM (place (lineSpans buffer)) = .ok listed ↔ listed.map Placed.edit = edits ∧
      ∀ placed ∈ listed, placed.edit.target.start ≤ placed.edit.target.stop ∧
        Occupies buffer placed.edit.target placed.span := by
  rw [mapM_eq_ok_iff]
  constructor
  · intro found
    induction found with
    | nil => simp
    | cons head _ ih =>
      obtain ⟨rfl, fits⟩ := place_eq_ok_iff.mp head
      refine ⟨by rw [List.map_cons, ih.1], ?_⟩
      intro placed member
      rcases List.mem_cons.mp member with rfl | member
      · exact fits
      · exact ih.2 placed member
  · rintro ⟨rfl, fits⟩
    rw [List.forall₂_map_left_iff, List.forall₂_same]
    exact fun placed member => place_eq_ok_iff.mpr ⟨rfl, fits placed member⟩

variable {buffer : Text} {listed ordered : List Placed}

theorem Occupies.unique {target : Target} {span other : Span} (one : Occupies buffer target span)
    (two : Occupies buffer target other) : span = other :=
  congrArg₂ Span.mk (one.1.unique two.1) (one.2.unique two.2)

theorem Occupies.proper {target : Target} {span : Span} (occupies : Occupies buffer target span)
    (inOrder : target.start ≤ target.stop) : span.Proper :=
  (occupies.1.le_iff occupies.2).mpr inOrder

theorem targetsOverlap_iff {first second : Target} {span other : Span}
    (one : Occupies buffer first span) (two : Occupies buffer second other) :
    TargetsOverlap buffer first second ↔ span.Overlaps other := by
  constructor
  · rintro ⟨span', other', one', two', overlap⟩
    rwa [one.unique one', two.unique two']
  · exact fun overlap => ⟨span, other, one, two, overlap⟩

/-- The overlaps of a batch are those of the spans that are found for it. -/
theorem pairwise_targets_iff
    (occupied : ∀ placed ∈ listed, Occupies buffer placed.edit.target placed.span) :
    ((listed.map Placed.edit).Pairwise fun first second =>
        ¬ TargetsOverlap buffer first.target second.target) ↔
      listed.Pairwise fun first second => ¬ first.span.Overlaps second.span := by
  rw [List.pairwise_map]
  exact List.Pairwise.iff_of_mem fun member member' =>
    not_congr (targetsOverlap_iff (occupied _ member) (occupied _ member'))

/-- A batch is acceptable exactly if its spans are found and free of overlap. -/
theorem acceptable_iff {edits : List Edit} :
    Acceptable buffer edits ↔ ∃ listed, edits.mapM (place (lineSpans buffer)) = .ok listed ∧
      listed.Pairwise fun first second => ¬ first.span.Overlaps second.span := by
  constructor
  · rintro ⟨inOrder, inside, clear⟩
    obtain ⟨listed, found⟩ := exists_mapM_place_iff.mpr fun edit member =>
      ⟨inOrder edit member, (inside edit member).1, (inside edit member).2⟩
    obtain ⟨rfl, fits⟩ := mapM_place_eq_ok_iff.mp found
    have free := (pairwise_targets_iff fun placed member => (fits placed member).2).mp clear
    exact ⟨listed, found, free⟩
  · rintro ⟨listed, found, clear⟩
    have each := exists_mapM_place_iff.mp ⟨listed, found⟩
    obtain ⟨rfl, fits⟩ := mapM_place_eq_ok_iff.mp found
    exact ⟨fun edit member => (each edit member).inOrder,
      fun edit member => ⟨(each edit member).start, (each edit member).stop⟩,
      (pairwise_targets_iff fun placed member => (fits placed member).2).mpr clear⟩

/-- Where an edit stands, for one whose target lies in the buffer. -/
def locate (buffer : Text) (edit : Edit) : Placed :=
  ⟨⟨(offset? buffer edit.target.start).getD 0, (offset? buffer edit.target.stop).getD 0⟩, edit⟩

theorem eq_locate {placed : Placed} (occupies : Occupies buffer placed.edit.target placed.span) :
    placed = locate buffer placed.edit := by
  rw [locate, offset?_eq_some_iff.mpr occupies.1, offset?_eq_some_iff.mpr occupies.2]
  rfl

/-- A batch has one arrangement only. -/
theorem Arrangement.unique {edits : List Edit} {first second : List Placed}
    (one : Arrangement buffer edits first) (two : Arrangement buffer edits second) :
    first = second := by
  have located (listed : List Placed)
      (occupied : ∀ placed ∈ listed, Occupies buffer placed.edit.target placed.span) :
      listed = (listed.map Placed.edit).map (locate buffer) := by
    rw [List.map_map]
    exact (List.map_id listed).symm.trans
      (List.map_congr_left fun placed member => eq_locate (occupied placed member))
  obtain ⟨listed, same, occupied, arranged⟩ := one
  obtain ⟨listed', same', occupied', arranged'⟩ := two
  have equal : listed = listed' := by
    rw [located listed occupied, located listed' occupied', same, same']
  subst equal
  exact arranged.unique arranged'

/-! ## Applying the batch -/

variable {edits : List Edit}

/-- Once its spans are found a batch is applied, unless neighbours in their order overlap. -/
theorem apply_of_placed (found : edits.mapM (place (lineSpans buffer)) = .ok listed) :
    apply buffer edits = match firstOverlap? (listed.mergeSort Placed.precedes) with
      | some (first, second) => .error (.overlap first second)
      | none => .ok (splice 0 buffer (listed.mergeSort Placed.precedes)) := by
  rw [apply, found]
  rfl

theorem apply_of_misplaced {fault : EditError}
    (found : edits.mapM (place (lineSpans buffer)) = .error fault) :
    apply buffer edits = .error fault := by
  rw [apply, found]
  rfl

/-- A batch that is listed as its spans stand is applied as it is listed. -/
theorem apply_of_sorted (found : edits.mapM (place (lineSpans buffer)) = .ok listed)
    (sorted : listed.Pairwise (Placed.precedes · ·)) (clear : firstOverlap? listed = none) :
    apply buffer edits = .ok (splice 0 buffer listed) := by
  rw [apply_of_placed found, List.mergeSort_of_pairwise sorted, clear]

theorem apply_nil (buffer : Text) : apply buffer [] = .ok buffer :=
  apply_of_sorted rfl .nil rfl

/-- Spans of targets in a buffer that are clear of each other come one after another. -/
theorem staged_of_occupies
    (clear : ordered.Pairwise fun first second => first.span.stop ≤ second.span.start)
    (proper : ∀ placed ∈ ordered, placed.span.Proper)
    (occupied : ∀ placed ∈ ordered, Occupies buffer placed.edit.target placed.span) :
    Staged buffer 0 (ordered.map Placed.span) := by
  apply staged_of_pairwise (List.pairwise_map.mpr clear) _ (Nat.zero_le _)
  intro span member
  obtain ⟨placed, here, rfl⟩ := List.mem_map.mp member
  exact ⟨Nat.zero_le _, proper placed here, (occupied placed here).2.le_length⟩

/-- The spans of a batch in their order, one after another in the buffer. -/
theorem staged_of_placed (found : edits.mapM (place (lineSpans buffer)) = .ok listed)
    (clear : firstOverlap? (listed.mergeSort Placed.precedes) = none) :
    Arrangement buffer edits (listed.mergeSort Placed.precedes) ∧
      Staged buffer 0 ((listed.mergeSort Placed.precedes).map Placed.span) := by
  obtain ⟨same, fits⟩ := mapM_place_eq_ok_iff.mp found
  have arranged := arranged_mergeSort listed
  have fits' : ∀ placed ∈ listed.mergeSort Placed.precedes,
      placed.edit.target.start ≤ placed.edit.target.stop ∧
        Occupies buffer placed.edit.target placed.span :=
    fun placed member => fits placed (arranged.perm.mem_iff.mp member)
  have proper : ∀ placed ∈ listed.mergeSort Placed.precedes, placed.span.Proper :=
    fun placed member => (fits' placed member).2.proper (fits' placed member).1
  refine ⟨⟨listed, same, fun placed member => (fits placed member).2, arranged⟩, ?_⟩
  exact staged_of_occupies ((firstOverlap?_eq_none_iff proper).mp clear) proper
    fun placed member => (fits' placed member).2

/-- A batch is applied exactly if it is acceptable. -/
theorem exists_apply_eq_ok_iff :
    (∃ result, apply buffer edits = .ok result) ↔ Acceptable buffer edits := by
  rw [acceptable_iff]
  cases found : edits.mapM (place (lineSpans buffer)) with
  | error fault => simp [apply_of_misplaced found]
  | ok listed =>
    have fits := (mapM_place_eq_ok_iff.mp found).2
    have decided := firstOverlap?_arranged_eq_none_iff (arranged_mergeSort listed)
      fun placed member => (fits placed member).2.proper (fits placed member).1
    rw [apply_of_placed found]
    simp only [Except.ok.injEq, exists_eq_left', ← decided]
    cases firstOverlap? (listed.mergeSort Placed.precedes) <;> simp

/-- What is made of a batch that is applied: its spans are replaced in their order. -/
theorem exists_arrangement_of_apply {result : Text} (applied : apply buffer edits = .ok result) :
    ∃ ordered, Arrangement buffer edits ordered ∧ Staged buffer 0 (ordered.map Placed.span) ∧
      result = splice 0 buffer ordered := by
  cases found : edits.mapM (place (lineSpans buffer)) with
  | error fault =>
    rw [apply_of_misplaced found] at applied
    cases applied
  | ok listed =>
    rw [apply_of_placed found] at applied
    cases clear : firstOverlap? (listed.mergeSort Placed.precedes) with
    | some pair =>
      rw [clear] at applied
      cases applied
    | none =>
      rw [clear] at applied
      obtain ⟨arrangement, staged⟩ := staged_of_placed found clear
      exact ⟨_, arrangement, staged, (Except.ok.inj applied).symm⟩

/-- A batch is applied exactly if its arrangement has spans that come one after another, and the
result is the buffer with these spans replaced. -/
theorem apply_eq_ok_iff_staged {result : Text} :
    apply buffer edits = .ok result ↔ ∃ ordered, Arrangement buffer edits ordered ∧
      Staged buffer 0 (ordered.map Placed.span) ∧ result = replaceAll buffer ordered := by
  constructor
  · intro applied
    obtain ⟨ordered, arrangement, staged, rfl⟩ := exists_arrangement_of_apply applied
    exact ⟨ordered, arrangement, staged, splice_eq_replaceAll staged⟩
  · rintro ⟨ordered, ⟨listed, same, occupied, arranged⟩, staged, rfl⟩
    obtain ⟨-, clear, each⟩ := staged_iff_pairwise.mp staged
    have proper : ∀ placed ∈ ordered, placed.span.Proper :=
      fun placed member => (each _ (List.mem_map_of_mem member)).2.1
    have found : edits.mapM (place (lineSpans buffer)) = .ok listed := by
      refine mapM_place_eq_ok_iff.mpr ⟨same, fun placed member => ?_⟩
      have occupies := occupied placed member
      exact ⟨(occupies.1.le_iff occupies.2).mp (proper placed (arranged.perm.mem_iff.mpr member)),
        occupies⟩
    have free : firstOverlap? ordered = none :=
      (firstOverlap?_eq_none_iff proper).mpr (List.pairwise_map.mp clear)
    rw [apply_of_placed found, ← arranged.unique (arranged_mergeSort listed), free,
      ← splice_eq_replaceAll staged]

end Numbering.Buffer
