import Mathlib.Data.List.TakeWhile
import Numbering.Proofs.Expression.Grammar

/-! # What the scanner takes is what the text holds

Every scanner splits its text into a typed part and the rest, and takes nothing but a well formed
part. The parts of a scanned text are therefore those of a layout of it.
-/

namespace Numbering.Parts

/-- What was skipped in front of a text is white space. -/
theorem exists_blank {text visible : Text} (same : Text.skipBlank text = visible) :
    ∃ blank : Text, blank.IsBlank ∧ text = blank ++ visible := by
  refine ⟨text.takeWhile Character.isWhiteSpace, ?_, ?_⟩
  · intro c member
    exact List.mem_takeWhile_imp member
  · rw [← same]
    exact List.takeWhile_append_dropWhile.symm

theorem of_scanDigits? {text digits rest : Text} (found : scanDigits? text = some (digits, rest)) :
    digits.IsDigits ∧ text = digits ++ rest := by
  rw [scanDigits?, Numeral.spanDigits] at found
  have split := List.takeWhile_append_dropWhile (p := Char.isDigit) (l := text)
  have all : ∀ c ∈ text.takeWhile Char.isDigit, c.isDigit = true :=
    fun c member => List.mem_takeWhile_imp member
  cases run : text.takeWhile Char.isDigit with
  | nil => simp [run] at found
  | cons c tail =>
    rw [run] at found split all
    obtain ⟨rfl, rfl⟩ := Prod.mk.inj (Option.some.inj found)
    exact ⟨⟨by simp, all⟩, split.symm⟩

theorem of_map_scanDigits? {sign : Option Char} (signed : ∀ c ∈ sign, c = '+' ∨ c = '-')
    {text rest : Text} {start : StartPart}
    (found : (scanDigits? text).map (fun (digits, rest) => (StartPart.numeral sign digits, rest)) =
      some (start, rest)) :
    start.WellFormed ∧ sign.toList ++ text = start.text ++ rest := by
  obtain ⟨⟨digits, after⟩, scanned, same⟩ := Option.map_eq_some_iff.mp found
  obtain ⟨formed, rfl⟩ := of_scanDigits? scanned
  obtain ⟨rfl, rfl⟩ := Prod.mk.inj same
  exact ⟨⟨signed, formed⟩, (List.append_assoc ..).symm⟩

theorem of_scanNumeral? {text rest : Text} {start : StartPart}
    (found : scanNumeral? text = some (start, rest)) :
    start.WellFormed ∧ text = start.text ++ rest := by
  unfold scanNumeral? at found
  split at found
  · exact of_map_scanDigits? (by simp) found
  · exact of_map_scanDigits? (by simp) found
  · exact of_map_scanDigits? (by simp) found

theorem of_scanWord? {text rest : Text} {start : StartPart}
    (found : scanWord? text = some (start, rest)) :
    start.WellFormed ∧ text = start.text ++ rest := by
  rw [scanWord?] at found
  have split := List.takeWhile_append_dropWhile (p := Character.isWordLetter) (l := text)
  have all : ∀ c ∈ text.takeWhile Character.isWordLetter, Character.isWordLetter c = true :=
    fun c member => List.mem_takeWhile_imp member
  cases run : text.takeWhile Character.isWordLetter with
  | nil => simp [run] at found
  | cons c tail =>
    rw [run] at found split all
    obtain ⟨rfl, rfl⟩ := Prod.mk.inj (Option.some.inj found)
    exact ⟨⟨by simp, all⟩, split.symm⟩

theorem of_scanStart? {text rest : Text} {start : StartPart}
    (found : scanStart? text = some (start, rest)) :
    start.WellFormed ∧ text = start.text ++ rest := by
  rw [scanStart?] at found
  cases numeral : scanNumeral? text with
  | some result =>
    rw [numeral] at found
    obtain rfl : result = (start, rest) := Option.some.inj found
    exact of_scanNumeral? numeral
  | none =>
    rw [numeral] at found
    exact of_scanWord? found

theorem of_scanOperator {text rest : Text} {operator : Option OperatorPart}
    (found : scanOperator text = (operator, rest)) :
    text = typed OperatorPart.text operator ++ rest := by
  unfold scanOperator at found
  split at found <;>
  · obtain ⟨rfl, rfl⟩ := Prod.mk.inj found
    rfl

theorem of_scanOptionalDigits {text rest : Text} {step : Option Text}
    (found : scanOptionalDigits text = (step, rest)) :
    (∀ digits ∈ step, Text.IsDigits digits) ∧ text = typed id step ++ rest := by
  unfold scanOptionalDigits at found
  split at found
  · rename_i digits after scanned
    obtain ⟨rfl, rfl⟩ := Prod.mk.inj found
    obtain ⟨formed, same⟩ := of_scanDigits? scanned
    exact ⟨by simpa using formed, same⟩
  · obtain ⟨rfl, rfl⟩ := Prod.mk.inj found
    exact ⟨by simp, rfl⟩

theorem of_scanMode {text rest : Text} {mode : Option ModePart}
    (found : scanMode text = (mode, rest)) :
    ∃ spelled : Option ModeSpelling, (∀ value ∈ spelled, value.WellFormed) ∧
      spelled.map ModeSpelling.part = mode ∧ text = typed ModeSpelling.text spelled ++ rest := by
  unfold scanMode at found
  split at found
  · split at found
    · rename_i digits after scanned
      obtain ⟨rfl, rfl⟩ := Prod.mk.inj found
      obtain ⟨formed, rfl⟩ := of_scanDigits? scanned
      exact ⟨some (.radix digits), by rintro _ ⟨⟩; exact formed, rfl, rfl⟩
    · obtain ⟨rfl, rfl⟩ := Prod.mk.inj found
      exact ⟨none, by simp, rfl, rfl⟩
  · obtain ⟨rfl, rfl⟩ := Prod.mk.inj found
    exact ⟨some (.marker 'a'), by simp [ModeSpelling.WellFormed], rfl, rfl⟩
  · obtain ⟨rfl, rfl⟩ := Prod.mk.inj found
    exact ⟨some (.marker 'A'), by simp [ModeSpelling.WellFormed], rfl, rfl⟩
  · obtain ⟨rfl, rfl⟩ := Prod.mk.inj found
    exact ⟨none, by simp, rfl, rfl⟩

theorem of_scanFill {text width : Text} {fill : Option Char}
    (found : scanFill text = (fill, width)) :
    ∃ closed : Option (Option Char), closed ≠ some (some '>') ∧ closed.join = fill ∧
      ∀ digits rest, width = digits ++ rest →
        ':' :: text = PadSpelling.text ⟨closed, digits⟩ ++ rest := by
  unfold scanFill at found
  split at found
  · obtain ⟨rfl, rfl⟩ := Prod.mk.inj found
    exact ⟨some none, by simp, rfl, by rintro digits rest rfl; rfl⟩
  · rename_i other
    obtain ⟨rfl, rfl⟩ := Prod.mk.inj found
    refine ⟨some (some _), ?_, rfl, by rintro digits rest rfl; rfl⟩
    rintro ⟨⟩
    exact other rfl
  · obtain ⟨rfl, rfl⟩ := Prod.mk.inj found
    exact ⟨none, by simp, rfl, by rintro digits rest rfl; rfl⟩

theorem of_scanPad {text rest : Text} {pad : Option PadPart}
    (found : scanPad text = (pad, rest)) :
    ∃ spelled : Option PadSpelling, (∀ value ∈ spelled, value.WellFormed) ∧
      spelled.map PadSpelling.part = pad ∧ text = typed PadSpelling.text spelled ++ rest := by
  unfold scanPad at found
  split at found
  · rename_i after
    cases filled : scanFill after with
    | mk fill body =>
      obtain ⟨closed, other, rfl, same⟩ := of_scanFill filled
      simp only [filled] at found
      split at found
      · rename_i width behind scanned
        obtain ⟨rfl, rfl⟩ := Prod.mk.inj found
        obtain ⟨formed, whole⟩ := of_scanDigits? scanned
        refine ⟨some ⟨closed, width⟩, ?_, rfl, same width behind whole⟩
        rintro _ ⟨⟩
        exact ⟨other, formed⟩
      · obtain ⟨rfl, rfl⟩ := Prod.mk.inj found
        exact ⟨none, by simp, rfl, rfl⟩
  · obtain ⟨rfl, rfl⟩ := Prod.mk.inj found
    exact ⟨none, by simp, rfl, rfl⟩

theorem of_scanCount {mark : Char} (marked : mark = '/' ∨ mark = '^') {text rest : Text}
    {count : Option Text} (found : scanCount mark text = (count, rest)) :
    ∃ (spelled : Option RepeatSpelling) (blank : Text), (∀ value ∈ spelled, value.WellFormed) ∧
      blank.IsBlank ∧ spelled.map RepeatSpelling.digits = count ∧
      mark :: text = typed (RepeatSpelling.text blank) spelled ++ rest := by
  unfold scanCount at found
  split at found
  · rename_i digits behind scanned
    obtain ⟨rfl, rfl⟩ := Prod.mk.inj found
    obtain ⟨formed, whole⟩ := of_scanDigits? scanned
    obtain ⟨blank, white, rfl⟩ := exists_blank whole
    refine ⟨some ⟨mark, digits⟩, blank, ?_, white, rfl, ?_⟩
    · rintro _ ⟨⟩
      exact ⟨marked, formed⟩
    · rw [← List.append_assoc]
      rfl
  · obtain ⟨rfl, rfl⟩ := Prod.mk.inj found
    exact ⟨none, [], by simp, Text.isBlank_nil, rfl, rfl⟩

theorem of_scanRepeats {text rest : Text} {count : Option Text}
    (found : scanRepeats text = (count, rest)) :
    ∃ (spelled : Option RepeatSpelling) (blank : Text), (∀ value ∈ spelled, value.WellFormed) ∧
      blank.IsBlank ∧ spelled.map RepeatSpelling.digits = count ∧
      text = typed (RepeatSpelling.text blank) spelled ++ rest := by
  unfold scanRepeats at found
  split at found
  · exact of_scanCount (.inl rfl) found
  · exact of_scanCount (.inr rfl) found
  · obtain ⟨rfl, rfl⟩ := Prod.mk.inj found
    exact ⟨none, [], by simp, Text.isBlank_nil, rfl, rfl⟩

/-- What is left when the flags are taken is white space. -/
theorem of_takeWhile_isFlag {text : Text}
    (ends : Text.skipBlank (text.dropWhile isFlag) = []) :
    (∀ c ∈ text.takeWhile isFlag, c = '!' ∨ c = '@') ∧
      ∃ last : Text, last.IsBlank ∧ text = text.takeWhile isFlag ++ last := by
  refine ⟨?_, text.dropWhile isFlag, ?_, List.takeWhile_append_dropWhile.symm⟩
  · intro c member
    have flag := List.mem_takeWhile_imp member
    simpa [isFlag] using flag
  · exact List.dropWhile_eq_nil_iff.mp ends

/-- The parts of a scanned text are those of a layout of it. -/
theorem exists_writes_of_scan? {text : Text} {parts : Parts} (found : scan? text = some parts) :
    ∃ spelling : Spelling, spelling.Writes text ∧ spelling.parts = parts := by
  simp only [scan?, Option.bind_eq_bind, Option.bind_eq_some_iff] at found
  obtain ⟨⟨start, behindStart⟩, started, found⟩ := found
  obtain ⟨startFormed, startSame⟩ := of_scanStart? started
  obtain ⟨first, firstWhite, textSame⟩ := exists_blank startSame
  cases operated : scanOperator (Text.skipBlank behindStart) with | mk operator behindOperator
  obtain ⟨before, beforeWhite, operatorSame⟩ := exists_blank (of_scanOperator operated)
  cases stepped : scanOptionalDigits (Text.skipBlank behindOperator) with | mk step behindStep
  obtain ⟨stepFormed, stepSame⟩ := of_scanOptionalDigits stepped
  obtain ⟨gap, gapWhite, stepSame⟩ := exists_blank stepSame
  cases moded : scanMode (Text.skipBlank behindStep) with | mk mode behindMode
  obtain ⟨modeSpelled, modeFormed, rfl, modeSame⟩ := of_scanMode moded
  obtain ⟨space, spaceWhite, modeSame⟩ := exists_blank modeSame
  cases padded : scanPad behindMode with | mk pad behindPad
  obtain ⟨padSpelled, padFormed, rfl, padSame⟩ := of_scanPad padded
  cases repeated : scanRepeats (Text.skipBlank behindPad) with | mk count behindRepeats
  obtain ⟨repeatsSpelled, inner, repeatsFormed, innerWhite, rfl, repeatsSame⟩ :=
    of_scanRepeats repeated
  obtain ⟨room, roomWhite, repeatsSame⟩ := exists_blank repeatsSame
  simp only [operated, stepped, moded, padded, repeated] at found
  split at found
  · rename_i ends
    obtain ⟨flagsAll, trailing, trailingWhite, flagsSame⟩ :=
      of_takeWhile_isFlag (List.isEmpty_iff.mp ends)
    obtain ⟨last, lastWhite, lastSame⟩ := exists_blank flagsSame
    generalize (Text.skipBlank behindRepeats).takeWhile isFlag = flags at *
    let blanks : Blanks := ⟨first, before, gap, space, room, inner, last, trailing⟩
    have white : blanks.WellFormed := ⟨firstWhite, beforeWhite, gapWhite, spaceWhite, roomWhite,
      innerWhite, lastWhite, trailingWhite⟩
    refine ⟨⟨start, operator, step, modeSpelled, padSpelled, repeatsSpelled, flags⟩,
      ⟨⟨startFormed, stepFormed, modeFormed, padFormed, repeatsFormed, flagsAll⟩,
        blanks, white, ?_⟩, Option.some.inj found⟩
    rw [textSame, operatorSame, stepSame, modeSame, padSame, repeatsSame, lastSame]
    simp only [Spelling.layout, blanks, List.append_assoc]
  · simp at found

end Numbering.Parts
