import Numbering.Command
import Numbering.Proofs.Buffer.Lines
import Numbering.Proofs.Expression.FirstValue
import Numbering.Proofs.Profile.Fill

/-! # Printing the first values

The values of a sequence are printed with a separator between neighbours and a line feed behind the
last. Whether there is a line feed to print is told from the text and not from the number of values,
so values that leave no character go without one. A sequence without a first value has no other
either, so this happens exactly to a single value that is empty, and to any number of them between
which nothing stands (`Vanishes`). With line feeds for separators every value is a line
of its own in all other cases.
-/

namespace Numbering

namespace Text

variable {separator : Text} {parts : List Text}

theorem join_cons_of_ne_nil {part : Text} (filled : parts ≠ []) :
    join separator (part :: parts) = part ++ separator ++ join separator parts :=
  List.intercalate_cons_of_ne_nil filled

/-- A joined text is empty if its parts are and nothing stands between them. -/
theorem join_eq_nil_iff : join separator parts = [] ↔
    (∀ part ∈ parts, part = []) ∧ (parts.length ≤ 1 ∨ separator = []) := by
  induction parts with
  | nil => exact iff_of_true rfl ⟨by simp, .inl (Nat.zero_le 1)⟩
  | cons part others ih =>
    cases others with
    | nil => simp [join, List.intercalate_singleton]
    | cons next rest =>
      rw [join_cons_of_ne_nil (List.cons_ne_nil _ _), List.append_eq_nil_iff,
        List.append_eq_nil_iff, ih, List.forall_mem_cons (l := next :: rest)]
      simp only [List.length_cons]
      constructor
      · rintro ⟨⟨first, none⟩, empty, -⟩
        exact ⟨⟨first, empty⟩, .inr none⟩
      · rintro ⟨⟨first, empty⟩, few | none⟩
        · omega
        · exact ⟨⟨first, none⟩, empty, .inr none⟩

/-- Parts that are joined by line feeds, with one behind the last, each end at a line feed. -/
theorem join_lineFeed_append (filled : parts ≠ []) :
    join ['\n'] parts ++ ['\n'] = parts.flatMap (· ++ ['\n']) := by
  induction parts with
  | nil => exact absurd rfl filled
  | cons part others ih =>
    rw [List.flatMap_cons]
    cases others with
    | nil => simp [join, List.intercalate_singleton]
    | cons next rest =>
      rw [join_cons_of_ne_nil (List.cons_ne_nil _ _), List.append_assoc, ih (List.cons_ne_nil _ _)]

/-- What a reader of lines gets: what stands in front of each line feed, and what stands behind the
last one unless that is nothing. -/
def readLines (text : Text) : List Text :=
  if (Buffer.lines text).getLast? = some [] then (Buffer.lines text).dropLast
  else Buffer.lines text

theorem lines_flatMap (single : ∀ part ∈ parts, '\n' ∉ part) :
    Buffer.lines (parts.flatMap (· ++ ['\n'])) = parts ++ [[]] := by
  induction parts with
  | nil => rfl
  | cons part others ih =>
    obtain ⟨first, later⟩ := List.forall_mem_cons.mp single
    rw [List.flatMap_cons, List.append_assoc, List.singleton_append,
      Buffer.lines_append_lineFeed first, ih later, List.cons_append]

/-- Lines that each end at a line feed are read one by one. -/
theorem readLines_flatMap (single : ∀ part ∈ parts, '\n' ∉ part) :
    readLines (parts.flatMap (· ++ ['\n'])) = parts := by
  rw [readLines, lines_flatMap single, if_pos List.getLast?_concat, List.dropLast_concat]

end Text

namespace Expression

variable {alphabet : Alphabet} {expression : Expression} {separator : Text} {count : Nat}

/-- Without a first value there is none at all. -/
theorem Readable.values_empty (readable : expression.Readable alphabet)
    (none : expression.valueAt alphabet 0 = []) :
    ∀ value ∈ expression.values alphabet count, value = [] := by
  intro value member
  obtain ⟨index, -, rfl⟩ := List.mem_map.mp member
  have beyond := (valueAt_eq_nil_iff_reach readable).mp none
  exact (valueAt_eq_nil_iff_reach readable).mpr
    (Nat.lt_of_lt_of_le beyond (distance_le (Nat.zero_le index)))

/-- Nothing is left of some values of a sequence, joined with a separator: it has no first value, and
the values are one, or there is nothing between them. -/
def Vanishes (expression : Expression) (alphabet : Alphabet) (count : Nat) (separator : Text) : Prop :=
  expression.valueAt alphabet 0 = [] ∧ (count = 1 ∨ separator = [])

theorem Readable.join_values_eq_nil_iff (readable : expression.Readable alphabet) (count : Nat)
    (separator : Text) :
    Text.join separator (expression.values alphabet count) = [] ↔
      count = 0 ∨ expression.Vanishes alphabet count separator := by
  rw [Text.join_eq_nil_iff, length_values]
  constructor
  · rintro ⟨empty, few⟩
    refine (Nat.eq_zero_or_pos count).imp_right fun some => ⟨?_, few.imp_left fun few => by omega⟩
    exact empty _ (List.mem_map_of_mem (List.mem_range.mpr some))
  · rintro (rfl | ⟨none, few⟩)
    · exact ⟨by simp [values], .inl (Nat.zero_le 1)⟩
    · exact ⟨readable.values_empty none, few.imp_left Nat.le_of_eq⟩

end Expression

namespace Command

variable {profile : Profile} {text separator : Text} {expression : Expression} {count : Nat}

theorem generate_of_read (reads : profile.read text = .ok expression) :
    generate profile text count separator =
      .ok (if Text.join separator (expression.values profile.alphabet count) = [] then []
        else Text.join separator (expression.values profile.alphabet count) ++ ['\n']) := by
  rw [generate, Command.read, reads]
  simp only [List.isEmpty_iff]
  rfl

/-- Nothing is printed for no values. The first values of a sequence are printed with the separator
between them and a line feed behind the last, unless they vanish; then all of them are empty and
nothing is printed. With line feeds for separators a line is printed for every value, and a reader of
lines gets the values back if none of them has a line feed. -/
theorem generate_eq_ok_iff_not_vanishes (reads : profile.read text = .ok expression)
    (separator : Text) (count : Nat) :
    generate profile text 0 separator = .ok [] ∧
      (0 < count → (generate profile text count separator =
          .ok (Text.join separator (expression.values profile.alphabet count) ++ ['\n']) ↔
        ¬ expression.Vanishes profile.alphabet count separator)) ∧
      (expression.Vanishes profile.alphabet count separator →
        generate profile text count separator = .ok [] ∧
          ∀ value ∈ expression.values profile.alphabet count, value = []) ∧
      (¬ expression.Vanishes profile.alphabet count ['\n'] → ∃ output,
        generate profile text count ['\n'] = .ok output ∧
          output = (expression.values profile.alphabet count).flatMap (· ++ ['\n']) ∧
          ((∀ value ∈ expression.values profile.alphabet count, '\n' ∉ value) →
            Text.readLines output = expression.values profile.alphabet count ∧
              (Text.readLines output).length = count)) := by
  have readable : expression.Readable profile.alphabet := Expression.readable_of_read reads
  refine ⟨?none, fun some => ?printed, fun vanishes => ?vanished, fun shown => ?lines⟩
  case none =>
    rw [generate_of_read reads]
    rfl
  case printed =>
    have left := readable.join_values_eq_nil_iff count separator
    rw [or_iff_right (Nat.ne_of_gt some)] at left
    rw [generate_of_read reads, Except.ok.injEq, ← left]
    split_ifs with empty <;> simp [empty]
  case vanished =>
    rw [generate_of_read reads, if_pos ((readable.join_values_eq_nil_iff ..).mpr (.inr vanishes))]
    exact ⟨rfl, readable.values_empty vanishes.1⟩
  case lines =>
    refine ⟨_, ?_, rfl, fun single => ?_⟩
    · rw [generate_of_read reads]
      split_ifs with empty
      · obtain rfl := ((readable.join_values_eq_nil_iff ..).mp empty).resolve_right shown
        rfl
      · have filled : expression.values profile.alphabet count ≠ [] :=
          fun none => empty (none ▸ List.intercalate_nil)
        rw [Text.join_lineFeed_append filled]
    · rw [Text.readLines_flatMap single]
      exact ⟨rfl, expression.length_values profile.alphabet count⟩

/-- Down from `b` the third value is empty, and it has its line. -/
theorem generate_eq_ok_iff_not_vanishes_down :
    generate ⟨.latin, .standard⟩ "b-1".toList 3 ['\n'] = .ok ['b', '\n', 'a', '\n', '\n'] ∧
      Text.readLines ['b', '\n', 'a', '\n', '\n'] = [['b'], ['a'], []] := by
  let down : Expression := { Expression.ofStart (.alphabetic ['b']) with operator := .subtract }
  have reads : (⟨.latin, .standard⟩ : Profile).read "b-1".toList = .ok down := by decide
  have values : down.values .latin 3 = [['b'], ['a'], []] := by decide +kernel
  have shown : ¬ down.Vanishes .latin 3 ['\n'] := by
    rintro ⟨-, one | none⟩ <;> contradiction
  obtain ⟨output, printed, rfl, back⟩ :=
    (generate_eq_ok_iff_not_vanishes reads ['\n'] 3).2.2.2 shown
  rw [values] at printed back
  exact ⟨printed, (back (by decide)).1⟩

/-- Down from behind `a` there is no value. Of two of them, both are lines; one alone is no line. -/
theorem generate_single_empty_value :
    let below : Expression :=
      { Expression.ofStart (.alphabetic ['a']) with operator := .subtract, offset := 1 }
    (⟨.latin, .standard⟩ : Profile).read "a--1".toList = .ok below ∧
      below.values .latin 1 = [[]] ∧ Text.join ['\n'] [[]] ++ ['\n'] = ['\n'] ∧
      generate ⟨.latin, .standard⟩ "a--1".toList 1 ['\n'] = .ok [] ∧
      generate ⟨.latin, .standard⟩ "a--1".toList 2 ['\n'] = .ok ['\n', '\n'] := by
  decide +kernel

end Command

end Numbering
