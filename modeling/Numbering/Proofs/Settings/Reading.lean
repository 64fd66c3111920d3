import Numbering.Proofs.Settings.Setting
import Numbering.Settings

/-! # Reading settings from a tree

A tree that has a single value of the right type at every setting is read as the configuration of
these values (`ofEntry_of_holds`). Nothing else in the tree is looked at.
-/

namespace Numbering

def Configuration.value (configuration : Configuration) : Setting → Scalar
  | .letters => .text configuration.letters
  | .count => .integer configuration.shape.count
  | .ellipsis => .text configuration.shape.ellipsis
  | .separator => .text configuration.shape.separator
  | .marker => .text configuration.marker

theorem Configuration.eq_of_value {first second : Configuration}
    (same : ∀ setting, first.value setting = second.value setting) : first = second := by
  obtain ⟨letters, ⟨count, ellipsis, separator⟩, marker⟩ := first
  obtain ⟨letters', ⟨count', ellipsis', separator'⟩, marker'⟩ := second
  obtain rfl : letters = letters' := Scalar.text.inj (same .letters)
  obtain rfl : count = count' := Int.ofNat.inj (Scalar.integer.inj (same .count))
  obtain rfl : ellipsis = ellipsis' := Scalar.text.inj (same .ellipsis)
  obtain rfl : separator = separator' := Scalar.text.inj (same .separator)
  obtain rfl : marker = marker' := Scalar.text.inj (same .marker)
  rfl

namespace Settings

variable {root field : Entry} {setting : Setting} {configuration : Configuration}

theorem exists_table_of_at? (found : root.at? setting = some field) :
    ∃ origin fields, root.get? setting.home.key = some (.table origin fields) := by
  obtain ⟨entry, present, found⟩ := Option.bind_eq_some_iff.mp found
  cases entry with
  | table origin fields => exact ⟨origin, fields, present⟩
  | _ => cases found

theorem source_of_table (wanted : SettingsSection) {origin : Option Text}
    {fields : List (Text × Entry)} (present : root.get? wanted.key = some (.table origin fields)) :
    source wanted root = .ok (.byName (.table origin fields)) := by
  rw [source, present]

/-- How a field is read from the section of a setting. -/
theorem readField_of_at? {α : Type} {place : Nat} (setting : Setting) {origin : Option Text}
    {fields : List (Text × Entry)}
    (present : root.get? setting.home.key = some (.table origin fields))
    (found : root.at? setting = some field)
    (named : setting.home.fieldNames[place]? = some setting.name)
    (read : Text → Entry → Except SettingsError α) :
    readField setting.home read place (.byName (.table origin fields)) =
      (read setting.key field).map some := by
  rw [Entry.at?, present, Option.bind_some] at found
  rw [readField, named]
  dsimp only
  rw [found]
  rfl

theorem readLetters_of_holds (holds : root.Holds configuration.value) :
    readLetters root = .ok configuration.letters := by
  obtain ⟨origin, found⟩ := holds .letters
  obtain ⟨home, fields, present⟩ := exists_table_of_at? found
  have letters : readField .alphabet readText 0 (.byName (.table home fields)) =
      .ok (some configuration.letters) := readField_of_at? .letters present found rfl readText
  rw [readLetters, source_of_table .alphabet present]
  simp only [bind, Except.bind, letters]
  rfl

theorem readShape_of_holds (holds : root.Holds configuration.value) :
    readShape root = .ok configuration.shape := by
  obtain ⟨_, counted⟩ := holds .count
  obtain ⟨_, shortened⟩ := holds .ellipsis
  obtain ⟨_, separated⟩ := holds .separator
  obtain ⟨home, fields, present⟩ := exists_table_of_at? counted
  have count : readField .preview readCount 0 (.byName (.table home fields)) =
      .ok (some configuration.shape.count) := readField_of_at? .count present counted rfl readCount
  have ellipsis : readField .preview readText 1 (.byName (.table home fields)) =
      .ok (some configuration.shape.ellipsis) :=
    readField_of_at? .ellipsis present shortened rfl readText
  have separator : readField .preview readText 2 (.byName (.table home fields)) =
      .ok (some configuration.shape.separator) :=
    readField_of_at? .separator present separated rfl readText
  rw [readShape, source_of_table .preview present]
  simp only [bind, Except.bind, count, ellipsis, separator]
  rfl

theorem readMarker_of_holds (holds : root.Holds configuration.value) :
    readMarker root = .ok configuration.marker := by
  obtain ⟨origin, found⟩ := holds .marker
  obtain ⟨home, fields, present⟩ := exists_table_of_at? found
  have marker : readField .fill readText 0 (.byName (.table home fields)) =
      .ok (some configuration.marker) := readField_of_at? .marker present found rfl readText
  rw [readMarker, source_of_table .fill present]
  simp only [bind, Except.bind, marker]
  rfl

/-- A tree that holds a configuration is read as this configuration. -/
theorem ofEntry_of_holds (holds : root.Holds configuration.value) :
    ofEntry root = .ok configuration := by
  rw [ofEntry, readLetters_of_holds holds, readShape_of_holds holds, readMarker_of_holds holds]
  rfl

end Settings

end Numbering
