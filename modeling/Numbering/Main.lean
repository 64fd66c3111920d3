import Numbering.CommandLine.Program

/-! # The executable

Reads the files and the input that a run needs, lets the library decide, and carries out what it
says.
-/

namespace Numbering.CommandLine

/-- The reason that the system gives for not reading a file. -/
def reasonOf : IO.Error → String
  | .inappropriateType _ code _ => if code = 21 then Files.isADirectory else Files.notADirectory
  | .permissionDenied _ _ _ => "Permission denied (os error 13)"
  | error => toString error

/-- The state of a path on disk; a path that leads to nothing has none. -/
def stateOnDisk (path : Text) : IO (Option FileState) := do
  try
    let bytes ← IO.FS.readBinFile ⟨String.ofList path⟩
    match String.fromUTF8? bytes with
    | some content => return some (.content content.toList)
    | none => return some (.unreadable "stream did not contain valid UTF-8")
  catch
    | .noFileOrDirectory _ _ _ => return none
    | error => return some (.unreadable (reasonOf error))

def filesOnDisk (paths : List Text) : IO Files := do
  let states ← paths.mapM fun path => do
    return (path, ← stateOnDisk path)
  return states.filterMap fun (path, state) => state.map (path, ·)

/-- Writes the files whose content has changed. -/
def writeChanges (before after : Files) : IO Unit := do
  for file in after do
    if !before.contains file then
      match file with
      | (path, .content text) => IO.FS.writeFile ⟨String.ofList path⟩ (String.ofList text)
      | _ => pure ()

end Numbering.CommandLine

open Numbering Numbering.CommandLine in
def main (arguments : List String) : IO UInt32 := do
  let arguments := arguments.map String.toList
  let files ← filesOnDisk (pathsRead arguments)
  let input ← if readsInput arguments then (← IO.getStdin).readToEnd else pure ""
  let outcome := run files input.toList arguments
  writeChanges files outcome.files
  IO.print (String.ofList outcome.output)
  IO.eprint (String.ofList outcome.errors)
  return outcome.status.toUInt32
