import Numbering.Command.Files
import Numbering.Expression.Outline
import Numbering.Profile

/-! # Commands

Each command turns its arguments into the text that it prints. Only filling in place changes a
file, and it does so after everything else has succeeded, so that a command that fails leaves all
files as they were.
-/

namespace Numbering

inductive CommandError
  | rejected (reason : Rejection)
  | fill (fault : FillError)
  | inaccessible (path : Text) (reason : String)
  | invalidTarget (spec : Text)
  | unknownFormat (name : Text)
  deriving DecidableEq, Repr

def CommandError.message : CommandError → String
  | .rejected reason => "not a sequence expression: " ++ reason.message
  | .fill fault => fault.message
  | .inaccessible path reason =>
    let shown := String.ofList path
    s!"cannot access {shown}: {reason}"
  | .invalidTarget spec =>
    let shown := String.ofList spec
    s!"invalid target '{shown}', expected LINE:COLUMN or LINE:COLUMN..LINE:COLUMN"
  | .unknownFormat name =>
    let shown := String.ofList name
    s!"unknown format '{shown}'"

namespace Command

def read (profile : Profile) (text : Text) : Except CommandError Expression :=
  match profile.read text with
  | .ok expression => .ok expression
  | .error reason => .error (.rejected reason)

def parse (profile : Profile) (text format : Text) : Except CommandError Text := do
  let expression ← read profile text
  if format = "debug".toList then return expression.outline ++ ['\n']
  else if format = "json".toList then return expression.interchange ++ ['\n']
  else .error (.unknownFormat format)

/-- The preview line of an expression, with a number of values of its own if one is given. -/
def preview (profile : Profile) (text : Text) (count : Option Nat) : Except CommandError Text := do
  let expression ← read profile text
  let shape := { profile.shape with count := count.getD profile.shape.count }
  return expression.preview shape profile.alphabet ++ ['\n']

/-- The first values of a sequence. A line feed ends the output unless nothing stands before it. -/
def generate (profile : Profile) (text : Text) (count : Nat) (separator : Text) :
    Except CommandError Text := do
  let expression ← read profile text
  let joined := Text.join separator (expression.values profile.alphabet count)
  return if joined.isEmpty then [] else joined ++ ['\n']

inductive Places
  | marker (text : Text)
  | explicit (targets : List Target)
  deriving DecidableEq, Repr

def Places.targets (buffer : Text) : Places → List Target
  | .marker text => Buffer.markers buffer text
  | .explicit targets => targets

def readTarget (spec : Text) : Except CommandError Target :=
  match Target.read? spec with
  | some target => .ok target
  | none => .error (.invalidTarget spec)

/-- The buffer that a path stands for; a single dash stands for the standard input. -/
def readSource (files : Files) (input path : Text) : Except CommandError Text :=
  if path = ['-'] then .ok input
  else
    match files.read path with
    | .ok content => .ok content
    | .error reason => .error (.inaccessible path reason)

def fillSource (profile : Profile) (text : Text) (files : Files) (input path : Text)
    (places : Places) : Except CommandError Text := do
  let buffer ← readSource files input path
  match profile.fill text buffer (places.targets buffer) with
  | .ok filled => return filled
  | .error fault => .error (.fill fault)

/-- Steps that work on files. What a step has written stays written if a later one fails. -/
abbrev FileSteps := ExceptT CommandError (StateM Files)

/-- Fills a source. In place, a file gets the result as its content and nothing is printed;
otherwise, and for the standard input, the result is printed. -/
def fillFile (profile : Profile) (text input path : Text) (places : Places) (inPlace : Bool) :
    FileSteps Text := do
  let filled ← fillSource profile text (← get) input path places
  if inPlace ∧ path ≠ ['-'] then
    modify fun files => files.write path filled
    return []
  else return filled

/-- What filling a source prints or why it fails, and the files after it in either case. -/
def fillOutcome (profile : Profile) (text : Text) (files : Files) (input path : Text)
    (places : Places) (inPlace : Bool) : Except CommandError Text × Files :=
  (fillFile profile text input path places inPlace).run.run files

/-- What filling a source prints and the files after it, or why it fails. -/
def fill (profile : Profile) (text : Text) (files : Files) (input path : Text) (places : Places)
    (inPlace : Bool) : Except CommandError (Text × Files) :=
  match fillOutcome profile text files input path places inPlace with
  | (.ok printed, after) => .ok (printed, after)
  | (.error error, _) => .error error

end Command

end Numbering
