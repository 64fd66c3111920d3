import Numbering.Command.Files

/-! # Reading and writing files

Writing a file replaces what every spelling of its path leads to and leaves all other paths alone
(`state?_write`): the file then has the text as its content, and no other file changes.
-/

namespace Numbering

namespace Files

variable {files : Files} {path other text : Text}

/-- What a path leads to after a write. -/
def overwrite (path text other : Text) (state : FileState) : FileState :=
  if normalPath other = normalPath path then .content text else state

theorem overwrite_congr {first second : Text} (same : normalPath first = normalPath second) :
    overwrite path text first = overwrite path text second := by
  funext state
  rw [overwrite, overwrite, same]

theorem write_eq_map (files : Files) (path text : Text) :
    files.write path text = files.map fun file => (file.1, overwrite path text file.1 file.2) := by
  apply List.map_congr_left
  rintro ⟨name, state⟩ -
  by_cases same : normalPath name = normalPath path <;> simp [overwrite, same]

theorem lookup_write (files : Files) (path text other : Text) :
    (files.write path text).lookup other =
      (files.lookup other).map (overwrite path text other) := by
  rw [write_eq_map]
  induction files with
  | nil => rfl
  | cons file rest ih =>
    obtain ⟨name, state⟩ := file
    rw [List.map_cons, List.lookup_cons, List.lookup_cons]
    cases same : other == name with
    | true => rw [eq_of_beq same, Option.map_some]
    | false => exact ih

theorem find?_write (files : Files) (path text other : Text) :
    (List.find? (normalPath ·.1 == normalPath other) (files.write path text)).map Prod.snd =
      ((List.find? (normalPath ·.1 == normalPath other) files).map Prod.snd).map
        (overwrite path text other) := by
  rw [write_eq_map, List.find?_map, Option.map_map, Option.map_map]
  apply Option.map_congr
  intro file found
  have same : normalPath file.1 = normalPath other := by simpa using List.find?_some found
  exact congrFun (overwrite_congr same) file.2

/-- A write replaces what a path leads to if it is the path of the file, in any spelling. -/
theorem state?_write (files : Files) (path text other : Text) :
    (files.write path text).state? other =
      (files.state? other).map (overwrite path text other) := by
  rw [state?, state?, lookup_write]
  cases files.lookup other with
  | some state => rfl
  | none =>
    dsimp only [Option.map_none]
    split
    · rfl
    · exact find?_write files path text other

/-- Nothing comes or goes. -/
theorem absence_write (files : Files) (path text other : Text) :
    (files.write path text).absence other = files.absence other := by
  simp only [absence, write_eq_map, List.any_map, Function.comp_def]

/-- A file that could be read holds the text that is written to it. -/
theorem read_write {content : Text} (found : files.read path = .ok content) :
    (files.write path text).read path = .ok text := by
  rw [read] at found ⊢
  rw [state?_write]
  cases state : files.state? path with
  | some state => simp [overwrite]
  | none => simp [state] at found

/-- No other file changes. -/
theorem read_write_of_ne (apart : normalPath other ≠ normalPath path) :
    (files.write path text).read other = files.read other := by
  have same : overwrite path text other = id := by
    funext state
    exact if_neg apart
  rw [read, read, state?_write, absence_write, same, Option.map_id_fun, id]

end Files

end Numbering
