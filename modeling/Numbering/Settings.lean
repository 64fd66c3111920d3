import Numbering.Numeral.Shortest
import Numbering.Profile
import Numbering.Settings.Path
import Numbering.Text.Quoted

/-! # Settings

The settings are the letters of the alphabet, the shape of the preview line and the marker. They
come from the built-in defaults, from layers of configuration files of which a later one wins, and
from overrides, which win over all files. A `Loader` collects the layers and the overrides in any
order; building reads the settings and names what is wrong with them.

A count may be written as a number, which is rounded, a truth value, or a text; a text may be written
as any single value. A section is a table, or a list of its fields in order.
-/

namespace Numbering

inductive SettingsSection
  | alphabet
  | preview
  | fill
  deriving DecidableEq, Repr

namespace SettingsSection

def key : SettingsSection → Text
  | .alphabet => "alphabet".toList
  | .preview => "preview".toList
  | .fill => "fill".toList

/-- What a section is called when something else is found in its place. -/
def structureName : SettingsSection → String
  | .alphabet => "AlphabetConfig"
  | .preview => "PreviewOptions"
  | .fill => "FillConfig"

def fieldNames : SettingsSection → List Text
  | .alphabet => ["letters".toList]
  | .preview => ["cursor_count".toList, "ellipsis".toList, "separator".toList]
  | .fill => ["marker".toList]

end SettingsSection

/-- What stands where a value of another kind is wanted. -/
inductive Found
  | scalar (value : Scalar)
  | sequence
  | map
  deriving DecidableEq, Repr

inductive Wanted
  | integer
  | word
  | text
  deriving DecidableEq, Repr

def Wanted.name : Wanted → String
  | .integer => "an integer"
  | .word => "an unsigned 64 bit or less integer"
  | .text => "a string"

inductive SettingsError
  | missingFile (name : Text)
  | malformedFile (name : Text)
  | malformedKey (key : Text)
  | wrongType (found : Found) (wanted : Wanted) (key : Text) (origin : Option Text)
  | notASection (found : Scalar) (wanted : SettingsSection)
  | shortSection (length : Nat) (wanted : SettingsSection)
  | missingField (name : Text)
  | alphabet (fault : AlphabetError)
  deriving DecidableEq, Repr

namespace SettingsError

def showBoolean (value : Bool) : String :=
  if value then "boolean `true`" else "boolean `false`"

def showFound : Found → String
  | .scalar (.text text) => "string " ++ String.ofList (Text.quotePlain text)
  | .scalar (.boolean value) => showBoolean value
  | .scalar (.integer number) => s!"64-bit integer `{number}`"
  | .scalar (.float number) => "floating point `" ++ String.ofList number.render ++ "`"
  | .sequence => "sequence"
  | .map => "map"

/-- A number with a point, which is added to a whole one. -/
def withPoint (number : Binary64) : Text :=
  let shown := number.render
  match number with
  | .finite _ _ _ => if shown.contains '.' then shown else shown ++ ['.', '0']
  | _ => shown

/-- What stands in place of a section, in words. -/
def showScalar : Scalar → String
  | .text text => "string " ++ String.ofList (Text.quotePlain text)
  | .boolean value => showBoolean value
  | .integer number => s!"integer `{number}`"
  | .float number => "floating point `" ++ String.ofList (withPoint number) ++ "`"

def message : SettingsError → String
  | .missingFile name =>
    let shown := String.ofList name
    s!"configuration file \"{shown}\" not found"
  | .malformedFile name =>
    let shown := String.ofList name
    s!"malformed configuration in {shown}"
  | .malformedKey key =>
    let shown := String.ofList key
    s!"malformed key {shown}"
  | .wrongType found wanted key origin =>
    let shown := showFound found
    let name := wanted.name
    let place := String.ofList key
    let file := match origin with
      | some file => " in " ++ String.ofList file
      | none => ""
    s!"invalid type: {shown}, expected {name} for key `{place}`{file}"
  | .notASection found wanted =>
    let shown := showScalar found
    let name := wanted.structureName
    s!"invalid type: {shown}, expected struct {name}"
  | .shortSection length wanted =>
    let name := wanted.structureName
    let count := wanted.fieldNames.length
    let plural := if count = 1 then "" else "s"
    s!"invalid length {length}, expected struct {name} with {count} element{plural}"
  | .missingField name =>
    let shown := String.ofList name
    s!"missing field `{shown}`"
  | .alphabet fault => "invalid alphabet.letters: " ++ fault.message

end SettingsError

/-- The settings as they are written, with letters that need not make an alphabet. -/
structure Configuration where
  letters : Text
  shape : PreviewShape
  marker : Text
  deriving DecidableEq, Repr

namespace Configuration

def alphabet (configuration : Configuration) : Except AlphabetError Alphabet :=
  Alphabet.ofLetters configuration.letters

/-- The settings themselves, if their letters make an alphabet. -/
def checked (configuration : Configuration) : Except SettingsError Configuration :=
  match configuration.alphabet with
  | .ok _ => .ok configuration
  | .error fault => .error (.alphabet fault)

def profile (configuration : Configuration) : Except SettingsError Profile :=
  match configuration.alphabet with
  | .ok alphabet => .ok ⟨alphabet, configuration.shape⟩
  | .error fault => .error (.alphabet fault)

end Configuration

structure Settings where
  profile : Profile
  marker : Text
  deriving DecidableEq

namespace Settings

def defaults : Entry :=
  let text := fun (content : Text) => Entry.scalar none (.text content)
  .table none [
    ("alphabet".toList, .table none [("letters".toList, text Alphabet.latin.letters)]),
    ("preview".toList, .table none [
      ("cursor_count".toList, .scalar none (.integer PreviewShape.standard.count)),
      ("ellipsis".toList, text PreviewShape.standard.ellipsis),
      ("separator".toList, text PreviewShape.standard.separator)]),
    ("fill".toList, .table none [("marker".toList, text ['{', '}'])])]

/-! ## Fields -/

/-- The count that a single value gives, or what was wanted instead. -/
def countOf (value : Scalar) : Except Wanted Nat :=
  match value with
  | .integer number => if 0 ≤ number then .ok number.toNat else .error .word
  | .boolean value => .ok (if value then 1 else 0)
  | .float number => .ok number.toWord
  | .text text =>
    let lower := Text.toLowercase text
    if lower = "true".toList ∨ lower = "on".toList ∨ lower = "yes".toList then .ok 1
    else if lower = "false".toList ∨ lower = "off".toList ∨ lower = "no".toList then .ok 0
    else
      match Numeral.readUnsigned? Numeral.maxWord text with
      | some number => .ok number
      | none => .error .integer

def textOf : Scalar → Text
  | .text text => text
  | .boolean value => if value then "true".toList else "false".toList
  | .integer number => Numeral.decimalInt number
  | .float number => number.render

/-- Reads an entry as a count; `key` names it in errors. -/
def readCount (key : Text) : Entry → Except SettingsError Nat
  | .scalar origin value =>
    match countOf value with
    | .ok number => .ok number
    | .error wanted => .error (.wrongType (.scalar value) wanted key origin)
  | .list origin _ => .error (.wrongType .sequence .integer key origin)
  | .table origin _ => .error (.wrongType .map .integer key origin)

/-- Reads an entry as a text; `key` names it in errors. -/
def readText (key : Text) : Entry → Except SettingsError Text
  | .scalar _ value => .ok (textOf value)
  | .list origin _ => .error (.wrongType .sequence .text key origin)
  | .table origin _ => .error (.wrongType .map .text key origin)

/-! ## Sections -/

/-- How the fields of a section are found. -/
inductive Source
  | byName (entry : Entry)
  | byPlace (items : List Entry)

/-- The source of a section's fields. -/
def source (wanted : SettingsSection) (root : Entry) : Except SettingsError Source :=
  match root.get? wanted.key with
  | none => .error (.missingField wanted.key)
  | some (.scalar _ value) => .error (.notASection value wanted)
  | some (.list _ items) => .ok (.byPlace items)
  | some entry => .ok (.byName entry)

/-- A field of a section read in a given way, absent from a table if it is not set there. A list
that is too short to have the field is an error. -/
def readField {α : Type} (wanted : SettingsSection) (read : Text → Entry → Except SettingsError α)
    (place : Nat) : Source → Except SettingsError (Option α)
  | .byName entry =>
    match wanted.fieldNames[place]? with
    | none => .ok none
    | some name =>
      match entry.get? name with
      | none => .ok none
      | some field => (read (wanted.key ++ ['.'] ++ name) field).map some
  | .byPlace items =>
    match items[place]? with
    | none => .error (.shortSection items.length wanted)
    | some item =>
      (read (wanted.key ++ ['['] ++ Numeral.decimal place ++ [']']) item).map some

/-- A field that has to be set. -/
def require {α : Type} (wanted : SettingsSection) (place : Nat) (value : Option α) :
    Except SettingsError α :=
  match value with
  | some value => .ok value
  | none => .error (.missingField ((wanted.fieldNames[place]?).getD []))

def readLetters (root : Entry) : Except SettingsError Text := do
  let found ← source .alphabet root
  let letters ← readField .alphabet readText 0 found
  require .alphabet 0 letters

/-- The shape of the preview line. Values of a wrong kind are reported before absent ones. -/
def readShape (root : Entry) : Except SettingsError PreviewShape := do
  let found ← source .preview root
  let count ← readField .preview readCount 0 found
  let ellipsis ← readField .preview readText 1 found
  let separator ← readField .preview readText 2 found
  return {
    count := ← require .preview 0 count
    ellipsis := ← require .preview 1 ellipsis
    separator := ← require .preview 2 separator }

def readMarker (root : Entry) : Except SettingsError Text := do
  let found ← source .fill root
  let marker ← readField .fill readText 0 found
  require .fill 0 marker

def ofEntry (root : Entry) : Except SettingsError Configuration := do
  let letters ← readLetters root
  let shape ← readShape root
  let marker ← readMarker root
  return ⟨letters, shape, marker⟩

/-! ## Layers -/

/-- A configuration file: its content, if it exists, and whether it has to. -/
structure Layer where
  name : Text
  content : Option Text
  required : Bool
  deriving DecidableEq, Repr

/-- The tree with a file's settings over it. -/
def addLayer (root : Entry) (layer : Layer) : Except SettingsError Entry :=
  match layer.content with
  | none => if layer.required then .error (.missingFile layer.name) else .ok root
  | some content =>
    match Toml.read? content with
    | none => .error (.malformedFile layer.name)
    | some fields => .ok (root.layer (Entry.ofFields (some layer.name) fields))

/-- What is to be loaded over the defaults: files, of which a later one wins, and values that win
over all files. -/
structure Loader where
  layers : List Layer
  overrides : List (List PathStep × Scalar)
  deriving DecidableEq, Repr

namespace Loader

/-- Nothing but the defaults. -/
def start : Loader :=
  ⟨[], []⟩

/-- A file is added over those before it; it is not read yet. -/
def withLayer (loader : Loader) (layer : Layer) : Loader :=
  { loader with layers := loader.layers ++ [layer] }

/-- A value is set over all files. -/
def setOverride (loader : Loader) (key : Text) (value : Scalar) : Except SettingsError Loader :=
  match PathStep.readPath? key with
  | some steps => .ok { loader with overrides := loader.overrides ++ [(steps, value)] }
  | none => .error (.malformedKey key)

def merged (loader : Loader) : Except SettingsError Entry := do
  let layered ← loader.layers.foldlM addLayer defaults
  return loader.overrides.foldl (fun root (steps, value) => root.setPath (.scalar none value) steps)
    layered

/-- The settings. The letters are checked once everything else is read. -/
def build (loader : Loader) : Except SettingsError Configuration := do
  let root ← loader.merged
  let configuration ← ofEntry root
  configuration.checked

end Loader

/-- The settings from the layers in order and the overrides. -/
def load (layers : List Layer) (overrides : List (Text × Scalar)) :
    Except SettingsError Settings := do
  let loader ← overrides.foldlM (fun loader (key, value) => loader.setOverride key value)
    (layers.foldl Loader.withLayer Loader.start)
  let configuration ← loader.build
  let profile ← configuration.profile
  return ⟨profile, configuration.marker⟩

end Settings

end Numbering
