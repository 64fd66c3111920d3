import Numbering.Text

/-! # Files by path

The files that a command can see, each with its content or with the reason why it cannot be read.
Paths are compared after dropping empty and single-point components. A path that leads through a
file, or that ends in a slash after one, is not a directory; a path above a file is a directory.
-/

namespace Numbering

/-- What a path leads to. -/
inductive FileState
  | content (text : Text)
  | unreadable (reason : String)
  deriving DecidableEq, Repr

/-- The files that a command can see, by path. -/
abbrev Files := List (Text × FileState)

namespace Files

def components : Text → List Text
  | [] => [[]]
  | c :: rest =>
    if c = '/' then [] :: components rest
    else
      match components rest with
      | [] => [[c]]
      | first :: others => (c :: first) :: others

/-- The components of a path that name something. -/
def names (path : Text) : List Text :=
  (components path).filter fun name => name ≠ [] ∧ name ≠ ['.']

/-- The path without empty and single-point components. -/
def normalPath (path : Text) : Text :=
  let plain := Text.join ['/'] (names path)
  if path.head? = some '/' then '/' :: plain else plain

/-- Whether a path can only name a directory. -/
def namesDirectory (path : Text) : Bool :=
  match (components path).getLast? with
  | some name => name == [] || name == ['.'] || name == ['.', '.']
  | none => false

/-- What a path leads to, if it is listed as it stands or in another spelling of a file's path. -/
def state? (files : Files) (path : Text) : Option FileState :=
  match files.lookup path with
  | some state => some state
  | none =>
    if namesDirectory path then none
    else (List.find? (normalPath ·.1 == normalPath path) files).map Prod.snd

/-- The reason that nothing is found at a path. -/
def noSuchFile : String :=
  "No such file or directory (os error 2)"

def notADirectory : String :=
  "Not a directory (os error 20)"

def isADirectory : String :=
  "Is a directory (os error 21)"

/-- Why a path that is not listed cannot be read. -/
def absence (files : Files) (path : Text) : String :=
  let steps := names path
  if path = [] then noSuchFile
  else if files.any fun file => (names file.1).isPrefixOf steps then notADirectory
  else if steps.all (· == ['.', '.']) ||
      files.any fun file => steps.isPrefixOf (names file.1) then
    isADirectory
  else noSuchFile

def read (files : Files) (path : Text) : Except String Text :=
  match files.state? path with
  | some (.content text) => .ok text
  | some (.unreadable reason) => .error reason
  | none => .error (files.absence path)

/-- The files after replacing the whole content of one. -/
def write (files : Files) (path text : Text) : Files :=
  files.map fun file =>
    if normalPath file.1 == normalPath path then (file.1, .content text) else file

end Files

end Numbering
