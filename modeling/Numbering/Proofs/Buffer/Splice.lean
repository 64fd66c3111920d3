import Mathlib.Data.List.Basic
import Numbering.Buffer.Edit

/-! # Splicing texts into a buffer

One edit replaces the characters of its span. Replacing the spans of a batch one after another, the
last one first, leaves the offsets of those still to come as they are. `splice_eq_replaceAll` says
that going once through the buffer from the front gives the same text, and `splice_eq_weave` that
the characters outside the spans are all kept, in order and once, with one text between any two of
the pieces that the spans leave (`eq_weave_cut`).
-/

namespace Numbering.Buffer

/-- A buffer with a text in place of the characters of a span. -/
def replaceSpan (span : Span) (text buffer : Text) : Text :=
  buffer.take span.start ++ text ++ buffer.drop span.stop

/-- A buffer with the spans of a batch replaced one after another, from the last to the first. -/
def replaceAll (buffer : Text) (ordered : List Placed) : Text :=
  ordered.foldr (fun placed text => replaceSpan placed.span placed.edit.text text) buffer

/-- The pieces of a buffer around spans: up to the first one, between neighbours, after the last. -/
def pieces (buffer : Text) (offset : Nat) : List Span → List Text
  | [] => [buffer.drop offset]
  | span :: rest => buffer.extract offset span.start :: pieces buffer span.stop rest

/-- Pieces with a text between any two neighbours. -/
def weave : List Text → List Text → Text
  | piece :: rest, text :: texts => piece ++ text ++ weave rest texts
  | rest, _ => rest.flatten

/-- Spans inside a buffer that come one after another, the first of them not before an offset. -/
inductive Staged (buffer : Text) : Nat → List Span → Prop
  | nil {offset : Nat} (inside : offset ≤ buffer.length) : Staged buffer offset []
  | cons {offset : Nat} {span : Span} {rest : List Span} (ahead : offset ≤ span.start)
      (proper : span.start ≤ span.stop) (inside : span.stop ≤ buffer.length)
      (later : Staged buffer span.stop rest) : Staged buffer offset (span :: rest)

theorem take_append_extract (buffer : Text) {start stop : Nat} (le : start ≤ stop) :
    buffer.take start ++ buffer.extract start stop = buffer.take stop := by
  rw [List.extract_eq_take_drop, ← List.take_add]
  congr 1
  omega

theorem extract_append_drop (buffer : Text) {start stop : Nat} (le : start ≤ stop) :
    buffer.extract start stop ++ buffer.drop stop = buffer.drop start := by
  rw [List.extract_eq_take_drop]
  have rest : buffer.drop stop = (buffer.drop start).drop (stop - start) := by
    rw [List.drop_drop]
    congr 1
    omega
  rw [rest, List.take_append_drop]

/-- Spans that come one after another from the start of a list that is in order. -/
theorem staged_of_pairwise {buffer : Text} {spans : List Span} {offset : Nat}
    (clear : spans.Pairwise fun first second => first.stop ≤ second.start)
    (proper : ∀ span ∈ spans, offset ≤ span.start ∧ span.start ≤ span.stop ∧
      span.stop ≤ buffer.length) (inside : offset ≤ buffer.length) :
    Staged buffer offset spans := by
  induction spans generalizing offset with
  | nil => exact .nil inside
  | cons span rest ih =>
    obtain ⟨ahead, later⟩ := List.pairwise_cons.mp clear
    obtain ⟨behind, ordered, within⟩ := proper span (by simp)
    refine .cons behind ordered within (ih later ?_ within)
    intro other member
    exact ⟨ahead other member, (proper other (List.mem_cons_of_mem _ member)).2⟩

/-- Spans come one after another exactly if each of them is in order, inside the buffer and clear of
all those behind it. -/
theorem staged_iff_pairwise {buffer : Text} {spans : List Span} {offset : Nat} :
    Staged buffer offset spans ↔ offset ≤ buffer.length ∧
      (spans.Pairwise fun first second => first.stop ≤ second.start) ∧
      ∀ span ∈ spans, offset ≤ span.start ∧ span.start ≤ span.stop ∧
        span.stop ≤ buffer.length := by
  constructor
  · intro staged
    induction staged with
    | nil inside => exact ⟨inside, .nil, by simp⟩
    | @cons offset span rest ahead proper inside later ih =>
      obtain ⟨-, clear, each⟩ := ih
      refine ⟨by omega, List.pairwise_cons.mpr ⟨fun other member => (each other member).1, clear⟩, ?_⟩
      intro other member
      rcases List.mem_cons.mp member with rfl | member
      · exact ⟨ahead, proper, inside⟩
      · obtain ⟨behind, ordered, within⟩ := each other member
        exact ⟨by omega, ordered, within⟩
  · rintro ⟨inside, clear, each⟩
    exact staged_of_pairwise clear each inside

/-- Replacing behind an offset leaves the characters in front of it, and what the replacing makes of
the rest is what the splice makes of it. -/
theorem take_append_splice {buffer : Text} {offset : Nat} {ordered : List Placed}
    (staged : Staged buffer offset (ordered.map Placed.span)) :
    buffer.take offset ++ splice offset (buffer.drop offset) ordered =
      replaceAll buffer ordered := by
  induction ordered generalizing offset with
  | nil => simp [splice, replaceAll]
  | cons placed others ih =>
    cases staged with
    | cons ahead proper inside later =>
      have kept := ih later
      -- the later spans lie behind this one, so replacing them leaves what stands in front of it
      have front : (replaceAll buffer others).take placed.span.start =
          buffer.take placed.span.start := by
        rw [← kept, List.take_append_of_le_length (by rw [List.length_take]; omega),
          List.take_take, Nat.min_eq_left proper]
      have back : (replaceAll buffer others).drop placed.span.stop =
          splice placed.span.stop (buffer.drop placed.span.stop) others := by
        rw [← kept, List.drop_append_of_le_length (by rw [List.length_take]; omega)]
        simp
      have gap : (buffer.drop offset).take (placed.span.start - offset) =
          buffer.extract offset placed.span.start := (List.extract_eq_take_drop ..).symm
      have rest : (buffer.drop offset).drop (placed.span.stop - offset) =
          buffer.drop placed.span.stop := by
        rw [List.drop_drop]
        congr 1
        omega
      calc buffer.take offset ++ splice offset (buffer.drop offset) (placed :: others)
          = (buffer.take offset ++ buffer.extract offset placed.span.start) ++ placed.edit.text ++
              splice placed.span.stop (buffer.drop placed.span.stop) others := by
            rw [splice, gap, rest]
            simp only [List.append_assoc]
        _ = buffer.take placed.span.start ++ placed.edit.text ++
              splice placed.span.stop (buffer.drop placed.span.stop) others := by
            rw [take_append_extract buffer ahead]
        _ = replaceSpan placed.span placed.edit.text (replaceAll buffer others) := by
            rw [replaceSpan, front, back]

/-- Replacing spans behind an offset keeps the characters in front of it. -/
theorem take_replaceAll {buffer : Text} {offset : Nat} {ordered : List Placed}
    (staged : Staged buffer offset (ordered.map Placed.span)) :
    (replaceAll buffer ordered).take offset = buffer.take offset := by
  have inside : offset ≤ (buffer.take offset).length :=
    Nat.le_of_eq (List.length_take_of_le (staged_iff_pairwise.mp staged).1).symm
  rw [← take_append_splice staged, List.take_append_of_le_length inside, List.take_take,
    Nat.min_self]

/-- Going through the buffer once does what replacing from the last span to the first does. -/
theorem splice_eq_replaceAll {buffer : Text} {ordered : List Placed}
    (staged : Staged buffer 0 (ordered.map Placed.span)) :
    splice 0 buffer ordered = replaceAll buffer ordered := by
  simpa using take_append_splice staged

/-- The splice puts the texts of a batch between the pieces that its spans leave. -/
theorem splice_eq_weave {buffer : Text} {offset : Nat} {ordered : List Placed}
    (staged : Staged buffer offset (ordered.map Placed.span)) :
    splice offset (buffer.drop offset) ordered =
      weave (pieces buffer offset (ordered.map Placed.span)) (ordered.map (·.edit.text)) := by
  induction ordered generalizing offset with
  | nil => simp [splice, pieces, weave]
  | cons placed others ih =>
    cases staged with
    | cons ahead proper inside later =>
      have rest : (buffer.drop offset).drop (placed.span.stop - offset) =
          buffer.drop placed.span.stop := by
        rw [List.drop_drop]
        congr 1
        omega
      rw [splice, rest, ih later]
      simp only [List.map_cons, pieces, weave, List.extract_eq_take_drop]

/-- The pieces and the characters of the spans between them make up the buffer. -/
theorem eq_weave_cut {buffer : Text} {offset : Nat} {spans : List Span}
    (staged : Staged buffer offset spans) :
    buffer.drop offset = weave (pieces buffer offset spans)
      (spans.map fun span => buffer.extract span.start span.stop) := by
  induction staged with
  | nil => simp [pieces, weave]
  | cons ahead proper inside later ih =>
    rw [pieces, List.map_cons, weave, ← ih, List.append_assoc,
      extract_append_drop buffer proper, extract_append_drop buffer ahead]

end Numbering.Buffer
