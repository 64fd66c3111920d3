import Numbering.Proofs.Buffer.Batch

/-! # Faults of single edits

An edit has no span if its target ends before it starts, or if one of its positions is outside the
buffer; the start is looked at first. The fault names the target or the position.
-/

namespace Numbering.Buffer

variable {buffer : Text} {edit : Edit} {edits : List Edit} {fault : EditError}

theorem resolve_eq_error_iff {position : Position} :
    resolve (lineSpans buffer) position = .error fault ↔
      ¬ Contains buffer position ∧ fault = .outOfBounds position := by
  have found {offset : Nat} : offsetIn? (lineSpans buffer) position = some offset ↔
      LiesAt buffer position offset := offset?_eq_some_iff
  rw [resolve, Contains]
  cases here : offsetIn? (lineSpans buffer) position with
  | none =>
    have nowhere : ¬ ∃ offset, LiesAt buffer position offset := by
      rintro ⟨offset, lies⟩
      rw [found.mpr lies] at here
      cases here
    simp [nowhere, eq_comm]
  | some offset =>
    have somewhere : ∃ offset, LiesAt buffer position offset := ⟨offset, found.mp here⟩
    simp [somewhere]

theorem place_eq_error_iff :
    place (lineSpans buffer) edit = .error fault ↔
      edit.target.stop < edit.target.start ∧ fault = .reversed edit.target ∨
        edit.target.start ≤ edit.target.stop ∧
          (¬ Contains buffer edit.target.start ∧ fault = .outOfBounds edit.target.start ∨
            Contains buffer edit.target.start ∧ ¬ Contains buffer edit.target.stop ∧
              fault = .outOfBounds edit.target.stop) := by
  rw [place, ← Position.not_lt]
  split
  · rename_i reversed
    simp [reversed, eq_comm]
  · rename_i inOrder
    simp only [inOrder, false_and, false_or, not_false_eq_true, true_and]
    cases start : resolve (lineSpans buffer) edit.target.start with
    | error outside =>
      obtain ⟨missing, rfl⟩ := resolve_eq_error_iff.mp start
      simp [bind, Except.bind, missing, eq_comm]
    | ok offset =>
      have inside : Contains buffer edit.target.start := ⟨offset, resolve_eq_ok_iff.mp start⟩
      cases stop : resolve (lineSpans buffer) edit.target.stop with
      | error outside =>
        obtain ⟨missing, rfl⟩ := resolve_eq_error_iff.mp stop
        simp [bind, Except.bind, inside, missing, eq_comm]
      | ok place =>
        have within : Contains buffer edit.target.stop := ⟨place, resolve_eq_ok_iff.mp stop⟩
        simp [bind, Except.bind, pure, Except.pure, inside, within]

end Numbering.Buffer
