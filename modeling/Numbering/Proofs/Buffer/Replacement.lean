import Numbering.Proofs.Buffer.Marker

/-! # Replacing the occurrences of a marker

One pass over a text replaces a marker wherever it is met: `Text.replaceEach` writes the next value in
its place and goes on behind it, and copies every other character. A batch that puts the same values
at the targets of the marker takes the way over positions, spans and their order, and comes to the
same text (`eq_replaceEach_of_apply`).
-/

namespace Numbering

/-- A text in which the occurrences of a marker are replaced one by one from the left, the first of
them by the value at `index`. -/
def Text.replaceEach (marker : Text) (value : Nat → Text) (index : Nat) : Text → Text
  | [] => []
  | c :: rest =>
    if marker.isPrefixOf (c :: rest) then
      value index ++ replaceEach marker value (index + 1) (rest.drop (marker.length - 1))
    else c :: replaceEach marker value index rest
termination_by text => text.length
decreasing_by
  · simp only [List.length_drop, List.length_cons]
    omega
  · simp

namespace Buffer

variable {buffer marker text : Text} {offset : Nat}

/-- The search that has yet to pass covered characters is a search behind them. -/
theorem occurrencesFrom_eq_drop (marker : Text) (covered offset : Nat) (text : Text) :
    occurrencesFrom marker covered offset text =
      occurrencesFrom marker 0 (offset + covered) (text.drop covered) := by
  induction covered generalizing offset text with
  | zero => rfl
  | succ more ih =>
    cases text with
    | nil => rfl
    | cons c rest =>
      rw [occurrencesFrom, ih, List.drop_succ_cons, Nat.add_assoc, Nat.add_comm 1 more]

/-- The span of an occurrence. -/
def occurrenceSpan (marker : Text) (offset : Nat) : Span :=
  ⟨offset, offset + marker.length⟩

/-- A character in front of all spans is kept. -/
theorem weave_pieces_of_lt {spans : List Span} {c : Char} (next : buffer.drop offset = c :: text)
    (ahead : ∀ span ∈ spans.head?, offset < span.start) (texts : List Text) :
    weave (pieces buffer offset spans) texts = c :: weave (pieces buffer (offset + 1) spans) texts := by
  have behind : buffer.drop (offset + 1) = text := by
    rw [← List.drop_drop, next, List.drop_one, List.tail_cons]
  cases spans with
  | nil => cases texts <;> simp [pieces, weave, next, behind]
  | cons span rest =>
    obtain ⟨more, start⟩ : ∃ more, span.start = offset + 1 + more :=
      Nat.exists_eq_add_of_le (ahead span rfl)
    have first : buffer.extract offset span.start =
        c :: buffer.extract (offset + 1) span.start := by
      rw [List.extract_eq_take_drop, List.extract_eq_take_drop, next, behind, start]
      have size : offset + 1 + more - offset = more + 1 := by omega
      rw [size, Nat.add_sub_cancel_left, List.take_succ_cons]
    cases texts <;> simp [pieces, weave, first]

/-- The pieces around the occurrences from an offset on, with the values between them, are what one
pass over the text from there on gives. -/
theorem weave_pieces_occurrencesFrom (filled : marker ≠ []) (value : Nat → Text) (index : Nat)
    (here : buffer.drop offset = text) :
    weave (pieces buffer offset ((occurrencesFrom marker 0 offset text).map (occurrenceSpan marker)))
        ((List.range' index (occurrencesFrom marker 0 offset text).length).map value) =
      Text.replaceEach marker value index text := by
  fun_induction Text.replaceEach marker value index text generalizing offset with
  | case1 index => simp [occurrencesFrom, pieces, weave, here]
  | case2 index c rest found ih =>
    have size : marker.length - 1 + 1 = marker.length :=
      Nat.sub_add_cancel (List.length_pos_iff.mpr filled)
    have behind : buffer.drop (offset + marker.length) = rest.drop (marker.length - 1) := by
      rw [← List.drop_drop, here, ← size, List.drop_succ_cons, size]
    have found' : occurrencesFrom marker 0 offset (c :: rest) =
        offset :: occurrencesFrom marker 0 (offset + marker.length)
          (rest.drop (marker.length - 1)) := by
      rw [occurrencesFrom, if_pos found, occurrencesFrom_eq_drop, Nat.add_assoc,
        Nat.add_comm 1, size]
    have none : buffer.extract offset offset = [] := by simp
    rw [found', List.map_cons, List.length_cons, List.range'_succ, List.map_cons, pieces, weave,
      ← ih behind]
    simp only [occurrenceSpan, none, List.nil_append]
  | case3 index c rest other ih =>
    have behind : buffer.drop (offset + 1) = rest := by
      rw [← List.drop_drop, here, List.drop_one, List.tail_cons]
    have found' : occurrencesFrom marker 0 offset (c :: rest) =
        occurrencesFrom marker 0 (offset + 1) rest := by
      rw [occurrencesFrom, if_neg other]
    have ahead : ∀ span ∈ ((occurrencesFrom marker 0 (offset + 1) rest).map
        (occurrenceSpan marker)).head?, offset < span.start := by
      intro span first
      obtain ⟨place, member, rfl⟩ := List.mem_map.mp (List.mem_of_mem_head? first)
      exact le_of_mem_occurrencesFrom member
    rw [found', weave_pieces_of_lt here ahead, ih behind]

/-- The spans of the targets of a marker are those of its occurrences. -/
theorem eq_map_occurrenceSpan {spans : List Span}
    (occupied : List.Forall₂ (Occupies buffer) (markers buffer marker) spans) :
    spans = (occurrences buffer marker).map (occurrenceSpan marker) := by
  have inside : ∀ offset ∈ occurrences buffer marker, offset + marker.length ≤ buffer.length :=
    fun offset member => le_length_of_mem_occurrences member
  rw [markers_eq, List.forall₂_map_left_iff] at occupied
  generalize occurrences buffer marker = offsets at occupied inside ⊢
  induction occupied with
  | nil => rfl
  | @cons offset span offsets spans head _ ih =>
    have stop := inside offset List.mem_cons_self
    obtain ⟨rfl, -⟩ := (occupies_targetAt_iff (by omega) stop).mp head
    rw [List.map_cons, ih fun other member => inside other (List.mem_cons_of_mem _ member)]
    rfl

/-- A batch with the values of a sequence at the targets of a marker replaces its occurrences one by
one, and keeps everything else. -/
theorem eq_replaceEach_of_apply {edits : List Edit} {result : Text} {value : Nat → Text}
    (filled : marker ≠ []) (targets : edits.map Edit.target = markers buffer marker)
    (texts : edits.map Edit.text =
      (List.range (occurrences buffer marker).length).map value)
    (applied : apply buffer edits = .ok result) :
    result = Text.replaceEach marker value 0 buffer := by
  obtain ⟨spans, occupied, -, -, woven⟩ := exists_spans_of_apply applied
    (targets ▸ inReadingOrder_markers buffer marker)
  rw [targets] at occupied
  have found : occurrences buffer marker = occurrencesFrom marker 0 0 buffer := by
    rw [occurrences, if_neg (by simpa using filled)]
  rw [woven, texts, eq_map_occurrenceSpan occupied, found, List.range_eq_range']
  exact weave_pieces_occurrencesFrom filled value 0 List.drop_zero

theorem markers_nil (buffer : Text) : markers buffer [] = [] :=
  rfl

end Buffer

end Numbering
