import Mathlib.Data.List.Perm.Basic
import Numbering.Proofs.Buffer.Batch

/-! # Cutting off the first line

The edits of the first line stand in front of those of the other lines, so a batch of edits that each
stay on one line is cut where its buffer is cut, behind the first line feed. `apply_cut` says that
the first line is then edited as a buffer of its own, that what follows its line feed is edited by
the other edits, moved up by a line, and that the line end between the two is kept.
-/

namespace Numbering

/-- An edit of which both ends are on one line. -/
def Edit.Level (edit : Edit) : Prop :=
  edit.target.start.line = edit.target.stop.line

/-- The edit of the same columns, one line further down. -/
def Edit.below (edit : Edit) : Edit where
  target := ⟨⟨edit.target.start.line + 1, edit.target.start.column⟩,
    ⟨edit.target.stop.line + 1, edit.target.stop.column⟩⟩
  text := edit.text

namespace Buffer

variable {buffer first rest result : Text} {edits : List Edit} {ordered listed : List Placed}

/-- A list whose selected elements all come first is cut by the selection. -/
theorem filter_append_filter_not {α : Type} {selected : α → Prop} [DecidablePred selected]
    {elements : List α}
    (first : elements.Pairwise fun earlier later => selected later → selected earlier) :
    elements.filter (selected ·) ++ elements.filter (¬ selected ·) = elements := by
  induction elements with
  | nil => rfl
  | cons element rest ih =>
    obtain ⟨ahead, later⟩ := List.pairwise_cons.mp first
    by_cases chosen : selected element
    · have front : (element :: rest).filter (selected ·) = element :: rest.filter (selected ·) :=
        List.filter_cons_of_pos (by simpa using chosen)
      have back : (element :: rest).filter (¬ selected ·) = rest.filter (¬ selected ·) :=
        List.filter_cons_of_neg (by simpa using chosen)
      rw [front, back, List.cons_append, ih later]
    · have none : ∀ other ∈ rest, ¬ selected other :=
        fun other member again => chosen (ahead other member again)
      have front : (element :: rest).filter (selected ·) = [] := by
        apply List.filter_eq_nil_iff.mpr
        simpa [chosen] using none
      have back : (element :: rest).filter (¬ selected ·) = element :: rest := by
        apply List.filter_eq_self.mpr
        simpa [chosen] using none
      rw [front, back, List.nil_append]

/-! ## Replacing spans in a part of a buffer -/

theorem replaceAll_append (buffer : Text) (front back : List Placed) :
    replaceAll buffer (front ++ back) = replaceAll (replaceAll buffer back) front :=
  List.foldr_append ..

/-- Spans that come one after another behind an offset leave it inside the buffer. -/
theorem le_length_replaceAll {offset : Nat}
    (staged : Staged buffer offset (ordered.map Placed.span)) :
    offset ≤ (replaceAll buffer ordered).length := by
  have inside := (staged_iff_pairwise.mp staged).1
  rw [← take_append_splice staged, List.length_append, List.length_take]
  omega

theorem replaceSpan_append {span : Span} (proper : span.start ≤ span.stop)
    (inside : span.stop ≤ buffer.length) (text tail : Text) :
    replaceSpan span text (buffer ++ tail) = replaceSpan span text buffer ++ tail := by
  rw [replaceSpan, replaceSpan, List.take_append_of_le_length (by omega),
    List.drop_append_of_le_length inside]
  simp only [List.append_assoc]

/-- What stands behind all spans is kept. -/
theorem replaceAll_append_left {offset : Nat}
    (staged : Staged buffer offset (ordered.map Placed.span)) (tail : Text) :
    replaceAll (buffer ++ tail) ordered = replaceAll buffer ordered ++ tail := by
  induction ordered generalizing offset with
  | nil => rfl
  | cons placed others ih =>
    cases staged with
    | cons ahead proper inside later =>
      change replaceSpan _ _ (replaceAll (buffer ++ tail) others) =
        replaceSpan _ _ (replaceAll buffer others) ++ tail
      rw [ih later, replaceSpan_append proper (le_length_replaceAll later)]

/-- The edit one line further down, where the lines in front of it take up a distance. -/
def Placed.below (distance : Nat) (placed : Placed) : Placed :=
  ⟨placed.span.shift distance, placed.edit.below⟩

theorem replaceSpan_shift (front : Text) (span : Span) (text rest : Text) :
    replaceSpan (span.shift front.length) text (front ++ rest) =
      front ++ replaceSpan span text rest := by
  simp only [replaceSpan, Span.shift, List.take_length_add_append, List.drop_length_add_append,
    List.append_assoc]

/-- What stands in front of all spans is kept. -/
theorem replaceAll_below (front rest : Text) (ordered : List Placed) :
    replaceAll (front ++ rest) (ordered.map (Placed.below front.length)) =
      front ++ replaceAll rest ordered := by
  induction ordered with
  | nil => rfl
  | cons placed others ih =>
    change replaceSpan _ _ (replaceAll (front ++ rest) (others.map _)) =
      front ++ replaceSpan _ _ (replaceAll rest others)
    rw [ih]
    exact replaceSpan_shift front placed.span placed.edit.text _

theorem mem_replaceAll {c : Char} (member : c ∈ replaceAll buffer ordered) :
    c ∈ buffer ∨ ∃ placed ∈ ordered, c ∈ placed.edit.text := by
  induction ordered with
  | nil => exact .inl member
  | cons placed others ih =>
    change c ∈ replaceSpan _ _ (replaceAll buffer others) at member
    have kept : c ∈ replaceAll buffer others →
        c ∈ buffer ∨ ∃ edit ∈ placed :: others, c ∈ edit.edit.text := by
      intro inside
      rcases ih inside with old | ⟨edit, later, written⟩
      · exact .inl old
      · exact .inr ⟨edit, List.mem_cons_of_mem _ later, written⟩
    simp only [replaceSpan, List.mem_append] at member
    rcases member with (front | written) | back
    · exact kept (List.mem_of_mem_take front)
    · exact .inr ⟨placed, List.mem_cons_self, written⟩
    · exact kept (List.mem_of_mem_drop back)

/-! ## Where the edits of the first line and of the others stand -/

theorem liesAt_zero_iff (none : '\n' ∉ first) (rest : Text) {column offset : Nat} :
    LiesAt (first ++ '\n' :: rest) ⟨0, column⟩ offset ↔
      LiesAt (stripReturn first) ⟨0, column⟩ offset := by
  have clean : '\n' ∉ stripReturn first := fun member => none (List.mem_of_mem_take member)
  simp only [LiesAt, isLine_zero none, isLine_of_not_mem clean, true_and]

theorem liesAt_succ_iff (none : '\n' ∉ first) (rest : Text) {line column offset : Nat} :
    LiesAt (first ++ '\n' :: rest) ⟨line + 1, column⟩ offset ↔
      ∃ inner, LiesAt rest ⟨line, column⟩ inner ∧ offset = first.length + 1 + inner := by
  simp only [LiesAt, isLine_succ none]
  constructor
  · rintro ⟨-, content, ⟨skipped, rfl, isLine⟩, within, rfl⟩
    refine ⟨_, ⟨skipped, content, isLine, within, rfl⟩, ?_⟩
    simp only [List.length_append, List.length_cons]
    omega
  · rintro ⟨-, ⟨skipped, content, isLine, within, rfl⟩, rfl⟩
    refine ⟨_, content, ⟨skipped, rfl, isLine⟩, within, ?_⟩
    simp only [List.length_append, List.length_cons]
    omega

/-- An edit of the first line stands where it stands in this line alone. -/
theorem occupies_of_line_eq_zero (none : '\n' ∉ first) {placed : Placed}
    (occupies : Occupies (first ++ '\n' :: rest) placed.edit.target placed.span)
    (level : placed.edit.Level) (top : placed.edit.target.start.line = 0) :
    Occupies (stripReturn first) placed.edit.target placed.span := by
  obtain ⟨⟨start, stop⟩, ⟨⟨⟨line, column⟩, ⟨line', column'⟩⟩, text⟩⟩ := placed
  obtain rfl : line = 0 := top
  obtain rfl : 0 = line' := level
  exact ⟨(liesAt_zero_iff none rest).mp occupies.1, (liesAt_zero_iff none rest).mp occupies.2⟩

/-- An edit of another line is an edit of the text behind the first line feed. -/
theorem exists_below_eq (none : '\n' ∉ first) {placed : Placed}
    (occupies : Occupies (first ++ '\n' :: rest) placed.edit.target placed.span)
    (level : placed.edit.Level) (lower : placed.edit.target.start.line ≠ 0) :
    ∃ inner : Placed, Occupies rest inner.edit.target inner.span ∧
      inner.below (first.length + 1) = placed := by
  obtain ⟨⟨start, stop⟩, ⟨⟨⟨line, column⟩, ⟨line', column'⟩⟩, text⟩⟩ := placed
  obtain ⟨above, rfl⟩ := Nat.exists_eq_succ_of_ne_zero lower
  obtain rfl : above + 1 = line' := level
  obtain ⟨start, lies, rfl⟩ := (liesAt_succ_iff none rest).mp occupies.1
  obtain ⟨stop, lies', rfl⟩ := (liesAt_succ_iff none rest).mp occupies.2
  exact ⟨⟨⟨start, stop⟩, ⟨⟨⟨above, column⟩, ⟨above, column'⟩⟩, text⟩⟩, ⟨lies, lies'⟩, rfl⟩

/-! ## Arrangements cut in two -/

theorem Arranged.filter (arranged : Arranged listed ordered) (keep : Placed → Bool) :
    Arranged (listed.filter keep) (ordered.filter keep) where
  perm := arranged.perm.filter keep
  sorted := arranged.sorted.sublist List.filter_sublist
  stable span := by rw [List.filter_comm, arranged.stable, List.filter_comm]

theorem shift_eq_shift_iff {distance : Nat} {span other : Span} :
    span.shift distance = other.shift distance ↔ span = other := by
  obtain ⟨start, stop⟩ := span
  obtain ⟨start', stop'⟩ := other
  simp [Span.shift]

/-- Moving all edits down leaves them arranged. -/
theorem Arranged.below (arranged : Arranged listed ordered) (distance : Nat) :
    Arranged (listed.map (Placed.below distance)) (ordered.map (Placed.below distance)) where
  perm := arranged.perm.map _
  sorted := by
    apply List.pairwise_map.mpr
    apply arranged.sorted.imp
    intro earlier later before
    rw [precedes_iff] at before ⊢
    simp only [Placed.below, Span.shift]
    omega
  stable span := by
    rw [List.filter_map, List.filter_map]
    congr 1
    by_cases moved : ∃ inner : Span, inner.shift distance = span
    · obtain ⟨inner, rfl⟩ := moved
      have same : ((fun placed : Placed => decide (placed.span = inner.shift distance)) ∘
          Placed.below distance) = fun placed => decide (placed.span = inner) := by
        funext placed
        exact decide_eq_decide.mpr shift_eq_shift_iff
      rw [same, arranged.stable]
    · have never (batch : List Placed) : batch.filter ((fun placed : Placed =>
          decide (placed.span = span)) ∘ Placed.below distance) = [] := by
        apply List.filter_eq_nil_iff.mpr
        intro placed _ same
        exact moved ⟨placed.span, of_decide_eq_true same⟩
      rw [never, never]

theorem Arrangement.occupies (arrangement : Arrangement buffer edits ordered) :
    ∀ placed ∈ ordered, Occupies buffer placed.edit.target placed.span := by
  obtain ⟨listed, -, occupied, arranged⟩ := arrangement
  exact fun placed member => occupied placed (arranged.perm.mem_iff.mp member)

theorem Arrangement.sorted (arrangement : Arrangement buffer edits ordered) :
    ordered.Pairwise fun earlier later => earlier.precedes later = true := by
  obtain ⟨listed, -, -, arranged⟩ := arrangement
  exact arranged.sorted

/-- In the order of a batch, the edits of the first line come first. -/
theorem Arrangement.filter_top_append (arrangement : Arrangement buffer edits ordered) :
    ordered.filter (·.edit.target.start.line = 0) ++
      ordered.filter (¬ ·.edit.target.start.line = 0) = ordered := by
  apply filter_append_filter_not
  apply arrangement.sorted.imp_of_mem
  intro earlier later member member' before top
  by_contra lower
  have apart : later.span.start < earlier.span.start :=
    (arrangement.occupies later member').1.lt (arrangement.occupies earlier member).1
      (.inl (by omega))
  rw [precedes_iff] at before
  omega

/-- The edits of the first line are arranged in its content. -/
theorem Arrangement.top (none : '\n' ∉ first)
    (arrangement : Arrangement (first ++ '\n' :: rest) edits ordered)
    (staged : Staged (first ++ '\n' :: rest) 0 (ordered.map Placed.span))
    (level : ∀ edit ∈ edits, edit.Level) :
    Arrangement (stripReturn first) (edits.filter (·.target.start.line = 0))
        (ordered.filter (·.edit.target.start.line = 0)) ∧
      Staged (stripReturn first) 0
        ((ordered.filter (·.edit.target.start.line = 0)).map Placed.span) := by
  obtain ⟨listed, rfl, occupied, arranged⟩ := arrangement
  obtain ⟨-, clear, each⟩ := staged_iff_pairwise.mp staged
  have inFirst : ∀ placed ∈ listed.filter (·.edit.target.start.line = 0),
      Occupies (stripReturn first) placed.edit.target placed.span := by
    intro placed member
    obtain ⟨inside, zero⟩ := List.mem_filter.mp member
    exact occupies_of_line_eq_zero none (occupied placed inside)
      (level _ (List.mem_map_of_mem inside)) (of_decide_eq_true zero)
  have upper := arranged.filter (·.edit.target.start.line = 0)
  refine ⟨⟨_, ?_, inFirst, upper⟩, staged_of_occupies ?_ ?_ ?_⟩
  · rw [List.filter_map]
    rfl
  · exact (List.pairwise_map.mp clear).sublist List.filter_sublist
  · exact fun placed member => (each _ (List.mem_map_of_mem (List.mem_of_mem_filter member))).2.1
  · exact fun placed member => inFirst placed (upper.perm.mem_iff.mp member)

/-- The edits of the other lines are arranged in what follows the first line feed. -/
theorem Arrangement.exists_below (none : '\n' ∉ first)
    (arrangement : Arrangement (first ++ '\n' :: rest) edits ordered)
    (staged : Staged (first ++ '\n' :: rest) 0 (ordered.map Placed.span))
    (level : ∀ edit ∈ edits, edit.Level) :
    ∃ (lower : List Edit) (lowerOrdered : List Placed),
      lower.map Edit.below = edits.filter (¬ ·.target.start.line = 0) ∧
        lowerOrdered.map (Placed.below (first.length + 1)) =
          ordered.filter (¬ ·.edit.target.start.line = 0) ∧
        Arrangement rest lower lowerOrdered ∧ Staged rest 0 (lowerOrdered.map Placed.span) := by
  obtain ⟨listed, rfl, occupied, arranged⟩ := arrangement
  obtain ⟨-, clear, each⟩ := staged_iff_pairwise.mp staged
  have moved : ∀ placed ∈ listed.filter (¬ ·.edit.target.start.line = 0),
      ∃ inner : Placed, Occupies rest inner.edit.target inner.span ∧
        inner.below (first.length + 1) = placed := by
    intro placed member
    obtain ⟨inside, lower⟩ := List.mem_filter.mp member
    exact exists_below_eq none (occupied placed inside) (level _ (List.mem_map_of_mem inside))
      (of_decide_eq_true lower)
  obtain ⟨lowerListed, inRest, lowered⟩ := exists_map_eq_of_forall moved
  have lower := arranged_mergeSort lowerListed
  -- there is one arrangement only, and moving the lower edits down gives one
  have below : (lowerListed.mergeSort Placed.precedes).map (Placed.below (first.length + 1)) =
      ordered.filter (¬ ·.edit.target.start.line = 0) := by
    have shifted := lower.below (first.length + 1)
    rw [lowered] at shifted
    exact shifted.unique (arranged.filter _)
  generalize lowerListed.mergeSort Placed.precedes = lowerOrdered at lower below
  refine ⟨lowerListed.map Placed.edit, lowerOrdered, ?_, below, ⟨_, rfl, inRest, lower⟩,
    staged_of_occupies ?_ ?_ fun placed member => inRest placed (lower.perm.mem_iff.mp member)⟩
  · calc (lowerListed.map Placed.edit).map Edit.below
        = (lowerListed.map (Placed.below (first.length + 1))).map Placed.edit := by
          rw [List.map_map, List.map_map]
          rfl
      _ = (listed.map Placed.edit).filter (¬ ·.target.start.line = 0) := by
          rw [lowered, List.filter_map]
          rfl
  · have apart := (List.pairwise_map.mp clear).sublist
      (List.filter_sublist (p := (¬ ·.edit.target.start.line = 0)))
    rw [← below] at apart
    apply (List.pairwise_map.mp apart).imp
    intro earlier later apart
    simp only [Placed.below, Span.shift] at apart
    omega
  · intro placed member
    have whole : placed.below (first.length + 1) ∈ ordered :=
      List.mem_of_mem_filter (below ▸ List.mem_map_of_mem member)
    have proper := (each _ (List.mem_map_of_mem whole)).2.1
    simp only [Placed.below, Span.shift] at proper
    unfold Span.Proper
    omega

/-! ## Cutting the batch -/

/-- A batch of level edits is cut behind the first line feed. The edits of the first line are applied
to its content, the others to what follows the line feed. -/
theorem apply_cut (none : '\n' ∉ first) (applied : apply (first ++ '\n' :: rest) edits = .ok result)
    (level : ∀ edit ∈ edits, edit.Level) :
    ∃ (edited later : Text) (lower : List Edit),
      lower.map Edit.below = edits.filter (¬ ·.target.start.line = 0) ∧
        apply (stripReturn first) (edits.filter (·.target.start.line = 0)) = .ok edited ∧
        apply rest lower = .ok later ∧
        result = edited ++ (first.drop (contentLength first) ++ '\n' :: later) := by
  obtain ⟨ordered, arrangement, staged, rfl⟩ := apply_eq_ok_iff_staged.mp applied
  obtain ⟨top, stagedTop⟩ := arrangement.top none staged level
  obtain ⟨lower, lowerOrdered, lowered, below, inRest, stagedBelow⟩ :=
    arrangement.exists_below none staged level
  refine ⟨_, _, lower, lowered, apply_eq_ok_iff_staged.mpr ⟨_, top, stagedTop, rfl⟩,
    apply_eq_ok_iff_staged.mpr ⟨_, inRest, stagedBelow, rfl⟩, ?_⟩
  have size : first.length + 1 = (first ++ ['\n']).length := by simp
  have content : first = stripReturn first ++ first.drop (contentLength first) :=
    (List.take_append_drop ..).symm
  calc replaceAll (first ++ '\n' :: rest) ordered
      = replaceAll (replaceAll (first ++ '\n' :: rest)
          (lowerOrdered.map (Placed.below (first.length + 1))))
          (ordered.filter (·.edit.target.start.line = 0)) := by
        rw [← replaceAll_append, below, arrangement.filter_top_append]
    _ = replaceAll ((first ++ ['\n']) ++ replaceAll rest lowerOrdered)
          (ordered.filter (·.edit.target.start.line = 0)) := by
        rw [size, ← replaceAll_below, List.append_assoc, List.singleton_append]
    _ = replaceAll (stripReturn first ++
          (first.drop (contentLength first) ++ '\n' :: replaceAll rest lowerOrdered))
          (ordered.filter (·.edit.target.start.line = 0)) := by
        rw [← List.append_assoc (stripReturn first), ← content, List.append_assoc,
          List.singleton_append]
    _ = replaceAll (stripReturn first) (ordered.filter (·.edit.target.start.line = 0)) ++
          (first.drop (contentLength first) ++ '\n' :: replaceAll rest lowerOrdered) :=
        replaceAll_append_left stagedTop _

end Buffer

end Numbering
