import Numbering.Proofs.Buffer.Bytes

/-! # Applying a batch of edits

The main statements on `apply`: it accepts a batch exactly if the batch is acceptable, and the text
of an accepted batch is the buffer with its spans replaced one after another, from the last to the
first. All characters outside the spans are kept, in order and once, with one text of the batch
between any two of the pieces. A host that edits by bytes gets the same and never takes a slice out
of order or inside a character.
-/

namespace Numbering.Buffer

variable {buffer : Text} {edits : List Edit} {result : Text} {ordered : List Placed}

/-- The text of a batch that is applied, from its arrangement. -/
theorem eq_replaceAll_of_apply (applied : apply buffer edits = .ok result)
    (arrangement : Arrangement buffer edits ordered) :
    result = replaceAll buffer ordered ∧
      buffer = weave (pieces buffer 0 (ordered.map Placed.span))
        (ordered.map fun placed => buffer.extract placed.span.start placed.span.stop) ∧
      result = weave (pieces buffer 0 (ordered.map Placed.span))
        (ordered.map fun placed => placed.edit.text) := by
  obtain ⟨other, arrangement', staged, rfl⟩ := exists_arrangement_of_apply applied
  obtain rfl := arrangement.unique arrangement'
  refine ⟨splice_eq_replaceAll staged, ?_, ?_⟩
  · simpa only [List.drop_zero, List.map_map, Function.comp_def] using eq_weave_cut staged
  · simpa only [List.drop_zero] using splice_eq_weave staged

/-- A batch is applied exactly if it is acceptable. The result is the buffer with the spans replaced
from the last to the first; it consists of the pieces of the buffer around the spans with the texts
of the batch between them, and editing by bytes comes to the same without taking a bad slice. -/
theorem apply_eq_ok_iff_acceptable (buffer : Text) (edits : List Edit) :
    ((∃ result, apply buffer edits = .ok result) ↔ Acceptable buffer edits) ∧
      (∀ result, apply buffer edits = .ok result ↔ Acceptable buffer edits ∧
        ∃ ordered, Arrangement buffer edits ordered ∧ result = replaceAll buffer ordered ∧
          buffer = weave (pieces buffer 0 (ordered.map Placed.span))
            (ordered.map fun placed => buffer.extract placed.span.start placed.span.stop) ∧
          result = weave (pieces buffer 0 (ordered.map Placed.span))
            (ordered.map fun placed => placed.edit.text)) ∧
      Bytes.apply buffer edits = (apply buffer edits).mapError .refused := by
  refine ⟨exists_apply_eq_ok_iff, fun result => ?_, Bytes.apply_eq buffer edits⟩
  constructor
  · intro applied
    obtain ⟨ordered, arrangement, -, -⟩ := exists_arrangement_of_apply applied
    exact ⟨exists_apply_eq_ok_iff.mp ⟨_, applied⟩, ordered, arrangement,
      eq_replaceAll_of_apply applied arrangement⟩
  · rintro ⟨acceptable, ordered, arrangement, same, -, -⟩
    obtain ⟨other, applied⟩ := exists_apply_eq_ok_iff.mpr acceptable
    rw [applied, same, (eq_replaceAll_of_apply applied arrangement).1]

end Numbering.Buffer
