import Numbering.Command
import Numbering.CommandLine.Arguments
import Numbering.Settings

/-! # The program

A run of the program depends on its arguments, the files, and the standard input, and consists of a
status, what is printed, and the files afterwards. Status one stands for settings that cannot be
loaded and for a command that fails, status two for arguments that cannot be understood.
-/

namespace Numbering.CommandLine

/-- What a run of the program leaves. -/
structure Outcome where
  status : Nat
  output : Text
  errors : Text
  files : Files
  deriving DecidableEq, Repr

def versionLine : Text :=
  "seqgen 0.1.0\n".toList

def usage : Text :=
  ("usage: seqgen [--config FILE] [--alphabet LETTERS] COMMAND\n" ++
    "  parse EXPRESSION [--format debug|json]\n" ++
    "  preview EXPRESSION [--count N]\n" ++
    "  generate EXPRESSION --count N [--separator TEXT]\n" ++
    "  fill EXPRESSION PATH [--marker TEXT | --target LINE:COLUMN...] [--in-place]\n").toList

/-- The paths at which a configuration file is looked for. -/
def configPaths (name : Text) : List Text :=
  [name, Files.normalPath name ++ ".toml".toList]

/-- The layer of a configuration file, under the path at which it was found. -/
def configLayer (files : Files) (name : Text) : Settings.Layer :=
  let found := (configPaths name).findSome? fun path =>
    match files.read path with
    | .ok content => some (Files.normalPath path, content)
    | .error _ => none
  match found with
  | some (path, content) => ⟨path, some content, true⟩
  | none => ⟨name, none, true⟩

def settings (files : Files) (invocation : Invocation) : Except SettingsError Settings :=
  Settings.load (invocation.config.map (configLayer files)).toList
    (invocation.letters.map fun letters => ("alphabet.letters".toList, .text letters)).toList

/-- Where a run is to write; the marker of the settings stands in for one that is not given. -/
def places (settings : Settings) : PlacesRequest → Except CommandError Command.Places
  | .standard => .ok (.marker settings.marker)
  | .marker text => .ok (.marker text)
  | .targets specs => (specs.mapM Command.readTarget).map .explicit

/-- What a run does to the files, and what it prints. -/
def perform (input : Text) (settings : Settings) (invocation : Invocation) :
    Command.FileSteps Text :=
  let text := invocation.expression
  match invocation.request with
  | .parse format => Command.parse settings.profile text format
  | .preview count => Command.preview settings.profile text count
  | .generate count separator => Command.generate settings.profile text count separator
  | .fill path request inPlace => do
    let places ← places settings request
    Command.fillFile settings.profile text input path places inPlace

/-- A run of the program. -/
def run (files : Files) (input : Text) (arguments : List Text) : Outcome :=
  match Invocation.read arguments with
  | .error .misuse => ⟨2, [], usage, files⟩
  | .error .help => ⟨0, usage, [], files⟩
  | .error .version => ⟨0, versionLine, [], files⟩
  | .ok invocation =>
    match settings files invocation with
    | .error error => ⟨1, [], ("Configuration error: " ++ error.message ++ "\n").toList, files⟩
    | .ok settings =>
      match (perform input settings invocation).run.run files with
      | (.error error, after) => ⟨1, [], ("Error: " ++ error.message ++ "\n").toList, after⟩
      | (.ok output, after) => ⟨0, output, [], after⟩

/-- The paths that a run may read. -/
def pathsRead (arguments : List Text) : List Text :=
  match Invocation.read arguments with
  | .error _ => []
  | .ok invocation =>
    let config := (invocation.config.map configPaths).getD []
    match invocation.request with
    | .fill path _ _ => if path = ['-'] then config else config ++ [path]
    | _ => config

/-- Whether a run may read the standard input. -/
def readsInput (arguments : List Text) : Bool :=
  match Invocation.read arguments with
  | .ok ⟨_, _, _, .fill path _ _⟩ => path == ['-']
  | _ => false

end Numbering.CommandLine
