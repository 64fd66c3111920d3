import Numbering.Profile
import Numbering.Proofs.Buffer.ReadingOrder
import Numbering.Proofs.Expression.Flagged
import Numbering.Proofs.Expression.Number

/-! # Filling a buffer

Filling reads the expression, gives every target the value at its place in the list and applies the
edits as one batch. Once the expression is read only the batch can be refused
(`fill_eq_ok_iff`, `fill_eq_edit_iff`). An expression that reorders has its values in reading order
of the targets: how the targets are listed makes no difference, and between the pieces of the buffer
around them stands the sequence from its first value on. Setting the flag behind a text fills as the
text alone fills the targets in reading order.
-/

namespace Numbering

namespace Expression

variable {expression : Expression}

/-- Targets with the values of a sequence, both in the order in which they are listed. -/
def assign (expression : Expression) (alphabet : Alphabet) (targets : List Target) : List Edit :=
  targets.zipWith Edit.mk (expression.values alphabet targets.length)

theorem plan_of_reorder (reorders : expression.reorder = true) (alphabet : Alphabet)
    (targets : List Target) :
    expression.plan alphabet targets =
      expression.assign alphabet (targets.mergeSort Target.precedes) := by
  rw [plan, if_pos reorders]
  rfl

theorem plan_of_listed (listed : expression.reorder = false) (alphabet : Alphabet)
    (targets : List Target) :
    expression.plan alphabet targets = expression.assign alphabet targets := by
  rw [plan, if_neg (by simp [listed])]
  rfl

/-- Targets that are listed in reading order stay as they are, whether the expression reorders or not. -/
theorem plan_of_inReadingOrder (expression : Expression) (alphabet : Alphabet) {targets : List Target}
    (upright : Target.InReadingOrder targets) :
    expression.plan alphabet targets = expression.assign alphabet targets := by
  rw [plan, List.mergeSort_of_pairwise upright, ite_self]
  rfl

/-- Reordering sorts the targets and gives them the values that they would have had in that order. -/
theorem plan_reordering (listed : expression.reorder = false) (alphabet : Alphabet)
    (targets : List Target) :
    expression.reordering.plan alphabet targets =
      expression.plan alphabet (targets.mergeSort Target.precedes) := by
  rw [plan_of_reorder rfl, plan_of_listed listed]
  rfl

@[simp] theorem length_values (expression : Expression) (alphabet : Alphabet) (count : Nat) :
    (expression.values alphabet count).length = count := by
  simp [values]

theorem map_target_assign (expression : Expression) (alphabet : Alphabet) (targets : List Target) :
    (expression.assign alphabet targets).map Edit.target = targets := by
  apply List.ext_getElem <;> simp [assign]

theorem map_text_assign (expression : Expression) (alphabet : Alphabet) (targets : List Target) :
    (expression.assign alphabet targets).map Edit.text =
      expression.values alphabet targets.length := by
  apply List.ext_getElem <;> simp [assign]

end Expression

namespace Profile

open Buffer (Occupies Staged weave pieces)

variable {profile : Profile} {text : Text} {expression : Expression}

theorem fill_of_read (reads : profile.read text = .ok expression) (buffer : Text)
    (targets : List Target) :
    profile.fill text buffer targets =
      (Buffer.apply buffer (expression.plan profile.alphabet targets)).mapError .edit := by
  have planned : profile.plan text targets = .ok (expression.plan profile.alphabet targets) := by
    rw [plan, reads]
    rfl
  rw [fill, planned]
  dsimp only
  cases Buffer.apply buffer (expression.plan profile.alphabet targets) <;> rfl

theorem fill_eq_ok_iff (reads : profile.read text = .ok expression) {buffer result : Text}
    {targets : List Target} :
    profile.fill text buffer targets = .ok result ↔
      Buffer.apply buffer (expression.plan profile.alphabet targets) = .ok result := by
  rw [fill_of_read reads]
  cases Buffer.apply buffer (expression.plan profile.alphabet targets) <;> simp [Except.mapError]

theorem fill_eq_edit_iff (reads : profile.read text = .ok expression) {buffer : Text}
    {targets : List Target} {fault : EditError} :
    profile.fill text buffer targets = .error (.edit fault) ↔
      Buffer.apply buffer (expression.plan profile.alphabet targets) = .error fault := by
  rw [fill_of_read reads]
  cases Buffer.apply buffer (expression.plan profile.alphabet targets) <;> simp [Except.mapError]

/-- Targets in reading order are filled one after another, if they lie in the buffer as their spans
stand and no two of them overlap. -/
theorem fill_of_sorted (reads : profile.read text = .ok expression) {buffer result : Text}
    {targets : List Target} (upright : Target.InReadingOrder targets) {texts : List Text}
    (values : expression.values profile.alphabet targets.length = texts)
    {listed : List Buffer.Placed}
    (found : (targets.zipWith Edit.mk texts).mapM (Buffer.place (Buffer.lineSpans buffer)) =
      .ok listed)
    (sorted : listed.Pairwise (Buffer.Placed.precedes · ·))
    (clear : Buffer.firstOverlap? listed = none)
    (spliced : Buffer.splice 0 buffer listed = result) :
    profile.fill text buffer targets = .ok result := by
  rw [fill_eq_ok_iff reads, Expression.plan_of_inReadingOrder expression profile.alphabet upright,
    Expression.assign, values, ← spliced]
  exact Buffer.apply_of_sorted found sorted clear

/-- A text that is no expression is refused before a target is looked at. -/
theorem fill_of_rejected {reason : Rejection} (rejected : profile.read text = .error reason) (buffer : Text)
    (targets : List Target) :
    profile.fill text buffer targets = .error (.rejected reason) := by
  have unplanned : profile.plan text targets = .error reason := by
    rw [plan, rejected]
    rfl
  rw [fill, unplanned]

/-- Only an expression gets as far as a fault in its edits. -/
theorem exists_read_of_fill_eq_edit {buffer : Text} {targets : List Target} {fault : EditError}
    (refused : profile.fill text buffer targets = .error (.edit fault)) :
    ∃ expression, profile.read text = .ok expression ∧
      Buffer.apply buffer (expression.plan profile.alphabet targets) = .error fault := by
  cases reads : profile.read text with
  | ok expression => exact ⟨expression, rfl, (fill_eq_edit_iff reads).mp refused⟩
  | error reason =>
    rw [fill_of_rejected reads] at refused
    injection refused with clash
    cases clash

/-- The targets of an expression that reorders may be listed in any order, and the refusal is the
same too. A buffer that is filled consists of its pieces around the targets in reading order, with
the values of the sequence from the first one on between them. -/
theorem fill_in_reading_order (reads : profile.read text = .ok expression)
    (reorders : expression.reorder = true) (buffer : Text) (targets : List Target) :
    (∀ others : List Target, others.Perm targets →
        profile.fill text buffer others = profile.fill text buffer targets) ∧
      ∀ result, profile.fill text buffer targets = .ok result →
        ∃ ordered spans, ordered.Perm targets ∧ Target.InReadingOrder ordered ∧
          List.Forall₂ (Occupies buffer) ordered spans ∧ Staged buffer 0 spans ∧
          buffer = weave (pieces buffer 0 spans)
            (spans.map fun span => buffer.extract span.start span.stop) ∧
          result = weave (pieces buffer 0 spans)
            ((List.range targets.length).map (expression.valueAt profile.alphabet)) := by
  constructor
  · intro others perm
    rw [fill_of_read reads, fill_of_read reads, Expression.plan_of_reorder reorders,
      Expression.plan_of_reorder reorders, Target.mergeSort_eq_of_perm perm]
  · intro result filled
    have applied := (fill_eq_ok_iff reads).mp filled
    rw [Expression.plan_of_reorder reorders] at applied
    have sorted := Target.inReadingOrder_mergeSort targets
    obtain ⟨spans, occupied, staged, whole, woven⟩ := Buffer.exists_spans_of_apply applied
      (by rwa [Expression.map_target_assign])
    rw [Expression.map_target_assign] at occupied
    rw [Expression.map_text_assign, List.length_mergeSort] at woven
    exact ⟨_, spans, List.mergeSort_perm targets _, sorted, occupied, staged, whole, woven⟩

/-- A selection and a cursor at its start, in either order of the list: the cursor comes first. -/
theorem fill_in_reading_order_cursor :
    (Profile.mk .latin .standard).fill ['1', '!'] ['a', 'b', 'c', 'd']
        [.cursor ⟨0, 0⟩, ⟨⟨0, 0⟩, ⟨0, 2⟩⟩] =
      (Profile.mk .latin .standard).fill ['1', '!'] ['a', 'b', 'c', 'd']
        [⟨⟨0, 0⟩, ⟨0, 2⟩⟩, .cursor ⟨0, 0⟩] ∧
    ∃ ordered spans, ordered.Perm [⟨⟨0, 0⟩, ⟨0, 2⟩⟩, .cursor ⟨0, 0⟩] ∧
      Target.InReadingOrder ordered ∧
      ['1', '2', 'c', 'd'] = weave (pieces ['a', 'b', 'c', 'd'] 0 spans) [['1'], ['2']] := by
  have reads : (Profile.mk .latin .standard).read ['1', '!'] =
      .ok { Expression.ofStart (.numeric 1) with reorder := true } := by decide
  have values : Expression.values { Expression.ofStart (.numeric 1) with reorder := true } .latin 2 =
      [['1'], ['2']] := Expression.values_ofStart_digits .latin (by decide)
  have found : [⟨.cursor ⟨0, 0⟩, ['1']⟩, ⟨⟨⟨0, 0⟩, ⟨0, 2⟩⟩, ['2']⟩].mapM
      (Buffer.place (Buffer.lineSpans ['a', 'b', 'c', 'd'])) =
        .ok [⟨⟨0, 0⟩, .cursor ⟨0, 0⟩, ['1']⟩, ⟨⟨0, 2⟩, ⟨⟨0, 0⟩, ⟨0, 2⟩⟩, ['2']⟩] := by decide
  have upright : (Profile.mk .latin .standard).fill ['1', '!'] ['a', 'b', 'c', 'd']
      [.cursor ⟨0, 0⟩, ⟨⟨0, 0⟩, ⟨0, 2⟩⟩] = .ok ['1', '2', 'c', 'd'] :=
    fill_of_sorted reads (by decide) values found (by decide) rfl rfl
  obtain ⟨same, pieced⟩ := fill_in_reading_order reads rfl ['a', 'b', 'c', 'd']
    [⟨⟨0, 0⟩, ⟨0, 2⟩⟩, .cursor ⟨0, 0⟩]
  have alike := same [.cursor ⟨0, 0⟩, ⟨⟨0, 0⟩, ⟨0, 2⟩⟩] (.swap ..)
  obtain ⟨ordered, spans, perm, sorted, -, -, -, woven⟩ := pieced _ (alike.symm.trans upright)
  exact ⟨alike, ordered, spans, perm, sorted, woven.trans (congrArg (weave _) values)⟩

/-- A text that sets no flag can be followed by the mark of reordering. It is then read as the same
expression with that flag set and has the same values, and a buffer is filled, or refused, just as
without the mark for the targets in reading order. -/
theorem fill_append_mark (reads : profile.read text = .ok expression)
    (listed : expression.reorder = false) (plain : expression.showPlus = false) :
    profile.read (text ++ ['!']) = .ok { expression with reorder := true } ∧
      (∀ index, Expression.valueAt { expression with reorder := true } profile.alphabet index =
        expression.valueAt profile.alphabet index) ∧
      ∀ buffer targets, ∃ ordered : List Target, ordered.Perm targets ∧
        Target.InReadingOrder ordered ∧
        profile.fill (text ++ ['!']) buffer targets = profile.fill text buffer ordered := by
  have marked : profile.read (text ++ ['!']) = .ok expression.reordering :=
    Expression.read_append_mark reads listed plain
  refine ⟨marked, Expression.valueAt_reordering expression profile.alphabet, ?_⟩
  intro buffer targets
  refine ⟨targets.mergeSort Target.precedes, List.mergeSort_perm targets _,
    Target.inReadingOrder_mergeSort targets, ?_⟩
  rw [fill_of_read marked, fill_of_read reads, Expression.plan_reordering listed]

/-- The mark as a fill is no flag, and a blank behind the padding goes in front of the flag. The targets
are listed from the bottom. -/
theorem fill_append_mark_padded :
    let padded : Expression := { Expression.ofStart (.numeric 1) with fill := '!', width := 2 }
    let profile := Profile.mk .latin .standard
    profile.read "1:!>2 ".toList = .ok padded ∧
      profile.read "1:!>2 !".toList = .ok { padded with reorder := true } ∧
      profile.fill "1:!>2 !".toList ['a', '\n', 'b'] [.cursor ⟨1, 1⟩, .cursor ⟨0, 0⟩] =
        profile.fill "1:!>2 ".toList ['a', '\n', 'b'] [.cursor ⟨0, 0⟩, .cursor ⟨1, 1⟩] := by
  intro padded profile
  have reads : profile.read "1:!>2 ".toList = .ok padded := by decide
  obtain ⟨marked, -, fills⟩ := fill_append_mark reads rfl rfl
  obtain ⟨ordered, perm, sorted, filled⟩ :=
    fills ['a', '\n', 'b'] [.cursor ⟨1, 1⟩, .cursor ⟨0, 0⟩]
  have upright : Target.InReadingOrder [.cursor ⟨0, 0⟩, .cursor ⟨1, 1⟩] := by decide
  obtain rfl := sorted.eq_of_perm upright (perm.trans (.swap ..))
  exact ⟨reads, marked, filled⟩

end Profile

end Numbering
