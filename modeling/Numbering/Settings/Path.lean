import Numbering.Settings.Entry

/-! # Paths to settings

A path names an entry of the tree: a key, and then keys after points and list places in brackets.
Keys consist of ASCII letters, digits, blanks, underscores and dashes. Setting along a path makes
tables and lists on the way out of whatever is there, and a list grows to the place that is set.
-/

namespace Numbering

/-- One step into the tree: a key of a table, or a place of a list, from the end if negative. -/
inductive PathStep
  | key (name : Text)
  | place (index : Int)
  deriving DecidableEq, Repr

namespace PathStep

/-- Whether a key of a path may hold a character. -/
def isKeyChar (c : Char) : Bool :=
  c.isAlphanum || c == ' ' || c == '_' || c == '-'

def isSpace (c : Char) : Bool :=
  c == ' ' || c == '\t'

def scanKey? (text : Text) : Option (PathStep × Text) :=
  match text.takeWhile isKeyChar with
  | [] => none
  | name => some (.key name, text.dropWhile isKeyChar)

/-- A place and its closing bracket at the start of a text. -/
def scanPlace? (text : Text) : Option (PathStep × Text) :=
  let body := text.dropWhile isSpace
  let (negative, body) := match body with
    | '-' :: rest => (true, rest)
    | rest => (false, rest)
  let (digits, rest) := Numeral.spanDigits body
  let size : Int := Numeral.readDecimal digits
  let index := if negative then -size else size
  match digits, rest.dropWhile isSpace with
  | _ :: _, ']' :: rest =>
    if Numeral.FitsWord index then some (.place index, rest) else none
  | _, _ => none

/-- The further steps of a path, of which there are at most `bound`. -/
def scanSteps? : (bound : Nat) → Text → Option (List PathStep)
  | _, [] => some []
  | 0, _ => none
  | bound + 1, c :: rest => do
    let (step, rest) ← if c = '.' then scanKey? rest else if c = '[' then scanPlace? rest else none
    let steps ← scanSteps? bound rest
    return step :: steps

/-- The steps of a path; the first is a key. -/
def readPath? (text : Text) : Option (List PathStep) := do
  let (first, rest) ← scanKey? text
  let steps ← scanSteps? rest.length rest
  return first :: steps

end PathStep

namespace Entry

/-- The place in a list of some length that an index names. -/
def placeOf (length : Nat) (index : Int) : Nat :=
  if 0 ≤ index then index.toNat else length - index.natAbs

/-- A list with one item changed; the list grows by empty lists up to the item, and anything but a
list becomes one. -/
def updateItem (entry : Entry) (index : Int) (change : Entry → Entry) : Entry :=
  let place := placeOf entry.items.length index
  let grown := entry.items ++
    List.replicate (place + 1 - entry.items.length) (.list none [])
  .list (match entry with
    | .list origin _ => origin
    | _ => none) (grown.modify place change)

/-- Sets an entry along a path. -/
def setPath (root value : Entry) : List PathStep → Entry
  | [] => root
  | [.key name] => root.set name value
  | [.place index] => root.updateItem index fun _ => value
  | .key name :: steps =>
    let key := Text.toLowercase name
    root.put key (((root.get? key).getD empty).setPath value steps)
  | .place index :: steps => root.updateItem index fun item => item.setPath value steps

/-- Sets the top-level fields of a document, whose keys are read as paths where they are paths. -/
def layer (root : Entry) (fields : List (Text × Entry)) : Entry :=
  fields.foldl (fun root (key, value) =>
    match PathStep.readPath? key with
    | some steps => root.setPath value steps
    | none => root.set key value) root

end Entry

end Numbering
