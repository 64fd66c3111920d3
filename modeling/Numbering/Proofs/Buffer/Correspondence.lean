import Mathlib.Data.Set.Function
import Numbering.Proofs.Buffer.Bytes

/-! # Positions and offsets correspond

The positions of a buffer and the offsets that split no line end are two names for one set of places.
Looking up an offset and looking up a position go from one name to the other, reading order is the
order of the offsets, and a position that does not lie in the buffer is refused. This holds for
offsets in characters and, by the bytes in front of a place, for offsets in bytes
(`correspond_offset`).
-/

namespace Numbering.Buffer

open Text

/-- Two look-ups go back and forth between positions and offsets: `index` is one to one and onto,
and keeps the order; it is what the look-up of an offset gives and what the look-up of a position
undoes. Other positions are refused. -/
structure Correspond {ε : Type} (positions : Set Position) (offsets : Set Nat)
    (index : Position → Nat) (offsetOf : Position → Except ε Nat)
    (positionOf : Nat → Except ε Position) (refusal : Position → ε) : Prop where
  bijective : Set.BijOn index positions offsets
  increasing : ∀ first ∈ positions, ∀ second ∈ positions, first < second →
    index first < index second
  found : ∀ position ∈ positions, offsetOf position = .ok (index position)
  inverse : ∀ position ∈ positions, positionOf (index position) = .ok position
  refused : ∀ position, position ∉ positions → offsetOf position = .error (refusal position)

/-- The offsets in characters that split no line end. -/
def places (buffer : Text) : Set Nat :=
  {offset | offset ≤ buffer.length ∧ ¬ SplitsLineEnd buffer offset}

/-- The offsets in bytes that lie between two characters, or at an end of the buffer, and not between
a carriage return and a line feed right behind it. -/
def Bytes.boundaries (buffer : Text) : Set Nat :=
  {bytes | ∃ front back, buffer = front ++ back ∧ bytes = byteLength front ∧
    ¬ (front.getLast? = some '\r' ∧ back.head? = some '\n')}

/-- Every boundary is the bytes in front of one place. -/
theorem byteOffset_bijOn (buffer : Text) :
    Set.BijOn (byteOffset buffer) (places buffer) (Bytes.boundaries buffer) := by
  refine ⟨?_, ?_, ?_⟩
  · rintro place ⟨inside, whole⟩
    obtain ⟨front, back, rfl, rfl⟩ := exists_cut inside
    rw [splitsLineEnd_append_iff] at whole
    exact ⟨front, back, rfl, by rw [byteOffset, List.take_left], whole⟩
  · rintro place ⟨inside, -⟩ other ⟨inside', -⟩ same
    exact (byteOffset_inj inside inside').mp same
  · rintro bytes ⟨front, back, rfl, rfl, whole⟩
    refine ⟨front.length, ⟨by simp, ?_⟩, by rw [byteOffset, List.take_left]⟩
    rwa [splitsLineEnd_append_iff]

/-- Looking up places in characters. -/
theorem correspond_places (buffer : Text) :
    Correspond {position | Contains buffer position} (places buffer)
      (fun position => (offset? buffer position).getD 0) (resolve (lineSpans buffer))
      (fun offset => .ok (positionAt buffer offset)) .outOfBounds := by
  have lookup {position : Position} {offset : Nat} (lies : LiesAt buffer position offset) :
      (offset? buffer position).getD 0 = offset := by
    rw [offset?_eq_some_iff.mpr lies, Option.getD_some]
  refine ⟨⟨?_, ?_, ?_⟩, ?_, ?_, ?_, ?_⟩
  · rintro position ⟨offset, lies⟩
    obtain ⟨inside, whole, -⟩ := liesAt_iff.mp lies
    exact show (offset? buffer position).getD 0 ∈ places buffer from
      (lookup lies).symm ▸ ⟨inside, whole⟩
  · rintro position ⟨offset, lies⟩ other ⟨place, lies'⟩ same
    simp only [lookup lies, lookup lies'] at same
    exact lies.position_eq (same ▸ lies')
  · rintro offset ⟨inside, whole⟩
    have lies := liesAt_iff.mpr ⟨inside, whole, rfl⟩
    exact ⟨positionAt buffer offset, ⟨offset, lies⟩, lookup lies⟩
  · rintro position ⟨offset, lies⟩ other ⟨place, lies'⟩ earlier
    simpa only [lookup lies, lookup lies'] using lies.lt lies' earlier
  · rintro position ⟨offset, lies⟩
    rw [lookup lies, resolve_eq_ok_iff]
    exact lies
  · rintro position ⟨offset, lies⟩
    rw [lookup lies, (liesAt_iff.mp lies).2.2]
  · intro position outside
    have none : offset? buffer position = none :=
      Option.eq_none_iff_forall_not_mem.mpr fun offset found =>
        outside ⟨offset, offset?_eq_some_iff.mp found⟩
    rw [resolve, ← offset?, none]

/-- Looking up offsets in bytes is looking up places, with the bytes in front of each place. -/
theorem Correspond.inBytes {buffer : Text} {index : Position → Nat} {refusal : Position → EditError}
    (correspond : Correspond {position | Contains buffer position} (places buffer) index
      (resolve (lineSpans buffer)) (fun offset => .ok (positionAt buffer offset)) refusal) :
    Correspond {position | Contains buffer position} (Bytes.boundaries buffer)
      (byteOffset buffer ∘ index) (Bytes.resolve buffer) (Bytes.positionAt buffer)
      (.refused <| refusal ·) := by
  have placed {position : Position} (contained : Contains buffer position) :
      index position ≤ buffer.length :=
    (correspond.bijective.mapsTo contained).1
  have resolved (position : Position) : Bytes.resolve buffer position =
      ((resolve (lineSpans buffer) position).map (byteOffset buffer)).mapError .refused := by
    rw [Bytes.resolve_eq, resolve, offset?]
    cases offsetIn? (lineSpans buffer) position <;> rfl
  refine ⟨(byteOffset_bijOn buffer).comp correspond.bijective, ?_, ?_, ?_, ?_⟩
  · intro first contained second contained' earlier
    exact byteOffset_lt (correspond.increasing first contained second contained' earlier)
      (placed contained')
  · intro position contained
    rw [resolved, correspond.found position contained]
    rfl
  · intro position contained
    rw [Function.comp_apply, Bytes.positionAt_byteOffset (placed contained)]
    exact congrArg _ (Except.ok.inj (correspond.inverse position contained))
  · intro position outside
    rw [resolved, correspond.refused position outside]
    rfl

/-- The look-ups of a buffer, in characters and in bytes: each of them goes back and forth between the
positions of the buffer and the offsets that split no line end, in reading order, and refuses every
other position as one outside the buffer. -/
theorem correspond_offset (buffer : Text) :
    (∃ index, Correspond {position | Contains buffer position} (places buffer) index
      (resolve (lineSpans buffer)) (fun offset => .ok (positionAt buffer offset)) .outOfBounds) ∧
    ∃ index, Correspond {position | Contains buffer position} (Bytes.boundaries buffer) index
      (Bytes.resolve buffer) (Bytes.positionAt buffer) (.refused <| .outOfBounds ·) :=
  ⟨⟨_, correspond_places buffer⟩, ⟨_, (correspond_places buffer).inBytes⟩⟩

end Numbering.Buffer
