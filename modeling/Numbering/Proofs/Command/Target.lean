import Numbering.Command
import Numbering.Proofs.Expression.RoundTrip
import Numbering.Proofs.Text.Split

/-! # The texts of targets

A position is typed as two numbers with a colon between them and white space around each of the three,
and a target as one position, or as two with two points between them. `Writes` says so without saying
how such a text is found. A text is read as a target exactly if it is typed like this, and any other is
refused as it stands. No number contains a separator, so the first occurrence of one is the right
place to cut at. What is printed for a target is one of its texts, so it is read back, with its ends in
order.
-/

namespace Numbering

/-- Decimal digits for a number, which a plus sign may precede. -/
def Numeral.Writes (number : Nat) (text : Text) : Prop :=
  ∃ digits : Text, digits.IsDigits ∧ (text = digits ∨ text = '+' :: digits) ∧
    readDecimal digits = number

/-- Whether words can hold the line and the column. -/
def Position.Fits (position : Position) : Prop :=
  position.line ≤ Numeral.maxWord ∧ position.column ≤ Numeral.maxWord

/-- The line and the column with a colon between them, all three with white space around them. -/
def Position.Writes (position : Position) (text : Text) : Prop :=
  position.Fits ∧ ∃ line column : Text, Numeral.Writes position.line line ∧
    Numeral.Writes position.column column ∧ Text.Spaced [line, [':'], column] text

/-- One position, or two in either order with two points between them. -/
inductive Target.Writes : Target → Text → Prop
  | cursor {position : Position} {text : Text} (typed : position.Writes text) :
    Target.Writes (.cursor position) text
  | stretch {first second : Position} {text text' : Text} (typed : first.Writes text)
      (typed' : second.Writes text') :
    Target.Writes (.between first second) (text ++ (['.', '.'] ++ text'))

/-! ## Numbers -/

namespace Numeral

open Expression (Visible)

variable {limit number : Nat} {text : Text} {c : Char}

theorem readDigits?_eq_some_iff :
    readDigits? limit text = some number ↔
      (text.IsDigits ∧ readDecimal text = number) ∧ number ≤ limit := by
  rw [readDigits?, Option.ite_none_right_eq_some, Option.some.injEq, List.all_eq_true, Text.IsDigits]
  constructor
  · rintro ⟨⟨filled, digits, low⟩, rfl⟩
    exact ⟨⟨⟨filled, digits⟩, rfl⟩, low⟩
  · rintro ⟨⟨⟨filled, digits⟩, rfl⟩, low⟩
    exact ⟨⟨filled, digits, low⟩, rfl⟩

theorem readUnsigned?_eq_some_iff :
    readUnsigned? limit text = some number ↔ Writes number text ∧ number ≤ limit := by
  unfold readUnsigned?
  split
  · rename_i digits
    rw [readDigits?_eq_some_iff]
    refine and_congr_left fun _ => ⟨fun ⟨formed, value⟩ => ⟨digits, formed, .inr rfl, value⟩, ?_⟩
    rintro ⟨typed, formed, rfl | same, value⟩
    · exact absurd (formed.2 '+' List.mem_cons_self) (by decide)
    · obtain rfl := (List.cons.inj same).2
      exact ⟨formed, value⟩
  · rename_i unsigned
    rw [readDigits?_eq_some_iff]
    refine and_congr_left fun _ => ⟨fun ⟨formed, value⟩ => ⟨text, formed, .inl rfl, value⟩, ?_⟩
    rintro ⟨digits, formed, rfl | same, value⟩
    · exact ⟨formed, value⟩
    · exact absurd same (unsigned digits)

theorem Writes.ne_nil (typed : Writes number text) : text ≠ [] := by
  obtain ⟨digits, formed, rfl | rfl, -⟩ := typed
  · exact formed.1
  · exact List.cons_ne_nil _ _

theorem Writes.mem (typed : Writes number text) (member : c ∈ text) : c = '+' ∨ c.isDigit = true := by
  obtain ⟨digits, formed, rfl | rfl, -⟩ := typed
  · exact .inr (formed.2 c member)
  · exact (List.mem_cons.mp member).imp_right (formed.2 c)

theorem Writes.isWhiteSpace (typed : Writes number text) (member : c ∈ text) :
    Character.isWhiteSpace c = false := by
  rcases typed.mem member with rfl | digit
  · decide
  · exact Character.isWhiteSpace_of_isDigit digit

theorem Writes.visible (typed : Writes number text) : Visible text ∧ Visible text.reverse := by
  refine ⟨Text.visible_of_forall typed.ne_nil fun _ => typed.isWhiteSpace,
    Text.visible_of_forall (by simpa using typed.ne_nil) fun c member => ?_⟩
  exact typed.isWhiteSpace (List.mem_reverse.mp member)

/-- A number inside white space. -/
theorem readUnsigned?_trim_eq_some_iff :
    readUnsigned? limit (Text.trim text) = some number ↔
      ∃ literal : Text, Text.Spaced [literal] text ∧ Writes number literal ∧ number ≤ limit := by
  rw [readUnsigned?_eq_some_iff]
  constructor
  · intro typed
    exact ⟨Text.trim text, Text.spaced_trim text, typed⟩
  · rintro ⟨literal, spaced, typed, low⟩
    rw [Text.trim_of_spaced typed.visible.1 typed.visible.2 spaced]
    exact ⟨typed, low⟩

theorem writes_decimal (number : Nat) : Writes number (decimal number) :=
  ⟨decimal number, isDigits_decimal number, .inl rfl, readDecimal_decimal number⟩

end Numeral

/-! ## Positions -/

namespace Position

variable {position : Position} {text : Text}

/-- A number has no colon in or around it. -/
theorem notMem_of_spaced {number : Nat} {literal : Text} (typed : Numeral.Writes number literal)
    (spaced : Text.Spaced [literal] text) : ':' ∉ text := by
  intro member
  rcases spaced.mem member with blank | ⟨piece, inside, here⟩
  · exact absurd blank (by decide)
  · obtain rfl := List.mem_singleton.mp inside
    exact absurd (typed.mem here) (by decide)

theorem read?_eq_some_iff : read? text = some position ↔ position.Writes text := by
  simp only [read?, Option.bind_eq_bind, Option.bind_eq_some_iff, Option.some.injEq, Prod.exists,
    pure, Numeral.readUnsigned?_trim_eq_some_iff]
  constructor
  · rintro ⟨front, back, cut, number, ⟨line, spaced, typed, low⟩, number',
      ⟨column, spaced', typed', low'⟩, rfl⟩
    have inside : Text.Spaced [line, [':'], column] (front ++ ([':'] ++ back)) :=
      spaced.append (.cons Text.isBlank_nil spaced')
    rw [← List.append_assoc, ← Text.eq_of_splitOnce? cut] at inside
    exact ⟨⟨low, low'⟩, line, column, typed, typed', inside.of_trim⟩
  · rintro ⟨⟨low, low'⟩, line, column, typed, typed', spaced⟩
    obtain ⟨front, back, trimmed, inside, inside'⟩ :=
      spaced.exists_trim_eq typed.visible.1 typed'.visible.2
    refine ⟨front, back, ?_, position.line, ⟨line, inside, typed, low⟩, position.column,
      ⟨column, inside', typed', low'⟩, rfl⟩
    rw [trimmed]
    exact Text.splitOnce?_append (notMem_of_spaced typed inside) [] _

/-- A text for a position has no point. -/
theorem Writes.notMem_point (typed : position.Writes text) : '.' ∉ text := by
  obtain ⟨-, line, column, typed, typed', spaced⟩ := typed
  intro member
  rcases spaced.mem member with blank | ⟨piece, inside, here⟩
  · exact absurd blank (by decide)
  · simp only [List.mem_cons, List.not_mem_nil, or_false] at inside
    rcases inside with rfl | rfl | rfl
    · exact absurd (typed.mem here) (by decide)
    · exact absurd here (by decide)
    · exact absurd (typed'.mem here) (by decide)

theorem writes_render (fits : position.Fits) : position.Writes position.render := by
  refine ⟨fits, _, _, Numeral.writes_decimal _, Numeral.writes_decimal _, ?_⟩
  have spaced : Text.Spaced [Numeral.decimal position.line, [':'], Numeral.decimal position.column]
      ([] ++ (Numeral.decimal position.line ++
        ([] ++ ([':'] ++ ([] ++ (Numeral.decimal position.column ++ [])))))) :=
    .cons Text.isBlank_nil (.cons Text.isBlank_nil (.cons Text.isBlank_nil (.nil Text.isBlank_nil)))
  simpa [render] using spaced

end Position

/-! ## Targets -/

namespace Target

variable {target : Target} {text : Text}

theorem read?_eq_some_iff : read? text = some target ↔ target.Writes text := by
  unfold read?
  constructor
  · intro found
    split at found
    · rename_i front back cut
      simp only [Option.bind_eq_bind, Option.bind_eq_some_iff, pure, Option.some.injEq,
        Position.read?_eq_some_iff] at found
      obtain ⟨first, typed, second, typed', rfl⟩ := found
      rw [Text.eq_of_splitOnce? cut, List.append_assoc]
      exact .stretch typed typed'
    · obtain ⟨position, typed, rfl⟩ := Option.map_eq_some_iff.mp found
      exact .cursor (Position.read?_eq_some_iff.mp typed)
  · rintro (⟨typed⟩ | ⟨typed, typed'⟩)
    · rw [Text.splitOnce?_eq_none typed.notMem_point, Position.read?_eq_some_iff.mpr typed]
      rfl
    · rw [Text.splitOnce?_append typed.notMem_point]
      simp only [Position.read?_eq_some_iff.mpr typed, Position.read?_eq_some_iff.mpr typed']
      rfl

def Fits (target : Target) : Prop :=
  target.start.Fits ∧ target.stop.Fits

/-- A printed target is a text for the target between its ends. -/
theorem writes_render (fits : target.Fits) :
    Target.Writes (.between target.start target.stop) target.render := by
  obtain ⟨fits, fits'⟩ := fits
  unfold render isCursor
  by_cases same : target.start = target.stop
  · rw [← same, decide_eq_true rfl, if_pos rfl]
    have one : between target.start target.start = cursor target.start := by
      simp [between, cursor]
    rw [one]
    exact .cursor (Position.writes_render fits)
  · rw [decide_eq_false same, if_neg Bool.false_ne_true, List.append_assoc]
    exact .stretch (Position.writes_render fits) (Position.writes_render fits')

end Target

/-! ## Arguments -/

namespace Command

/-- An argument is read as a target exactly if it is typed as one, and is refused as it stands
otherwise. What is printed for a target is read as that target if it does not end before it starts, and
as the target with its ends swapped if it does. -/
theorem readTarget_eq_ok_iff_writes (spec : Text) :
    (∀ target, readTarget spec = .ok target ↔ target.Writes spec) ∧
      (∀ fault, readTarget spec = .error fault ↔
        fault = .invalidTarget spec ∧ ∀ target : Target, ¬ target.Writes spec) ∧
      ∀ target : Target, target.Fits →
        (target.start ≤ target.stop → readTarget target.render = .ok target) ∧
          (target.stop < target.start →
            readTarget target.render = .ok ⟨target.stop, target.start⟩) := by
  have accepted (spec : Text) (target : Target) :
      readTarget spec = .ok target ↔ target.Writes spec := by
    rw [readTarget, ← Target.read?_eq_some_iff]
    cases Target.read? spec <;> simp
  refine ⟨accepted spec, fun fault => ?_, fun target fits => ?_⟩
  · simp only [← Target.read?_eq_some_iff, readTarget]
    cases found : Target.read? spec with
    | none => simp [eq_comm]
    | some target => simp
  · have printed := (accepted _ _).mpr (Target.writes_render fits)
    rw [printed, Target.between]
    constructor
    · intro ordered
      rw [if_pos ordered]
    · intro reversed
      rw [if_neg fun ordered => absurd reversed (Position.not_lt.mpr ordered)]

/-- Signs and white space may stand around the numbers, and the ends in either order; no position holds
a third point. -/
theorem readTarget_eq_ok_iff_writes_reversed :
    readTarget " 1:+2 .. 0 :05".toList = .ok ⟨⟨0, 5⟩, ⟨1, 2⟩⟩ ∧
      Target.Writes ⟨⟨0, 5⟩, ⟨1, 2⟩⟩ " 1:+2 .. 0 :05".toList ∧
      readTarget "1:2...3:4".toList = .error (.invalidTarget "1:2...3:4".toList) ∧
      (∀ target : Target, ¬ target.Writes "1:2...3:4".toList) ∧
      readTarget "1:2..0:5".toList = .ok ⟨⟨0, 5⟩, ⟨1, 2⟩⟩ := by
  have read : readTarget " 1:+2 .. 0 :05".toList = .ok ⟨⟨0, 5⟩, ⟨1, 2⟩⟩ := by decide
  have refused : readTarget "1:2...3:4".toList = .error (.invalidTarget "1:2...3:4".toList) := by
    decide
  have fits : Target.Fits ⟨⟨1, 2⟩, ⟨0, 5⟩⟩ :=
    ⟨⟨by decide, by decide⟩, by decide, by decide⟩
  have printed : Target.render ⟨⟨1, 2⟩, ⟨0, 5⟩⟩ = "1:2..0:5".toList := by
    simp [Target.render, Target.isCursor, Position.render, Numeral.decimal_of_lt, Numeral.digitChar]
  have again := ((readTarget_eq_ok_iff_writes []).2.2 ⟨⟨1, 2⟩, ⟨0, 5⟩⟩ fits).2 (by decide)
  rw [printed] at again
  exact ⟨read, ((readTarget_eq_ok_iff_writes _).1 _).mp read, refused,
    (((readTarget_eq_ok_iff_writes _).2.1 _).mp refused).2, again⟩

end Command

end Numbering
