import Numbering.Text.Casing
import Numbering.Toml.Document

/-! # The tree of settings

Settings are collected in a tree: tables of entries by key, lists, and single values, each with the
file it came from, if any. Setting a table merges it into the one that is there, key by key, and
setting anything else replaces what is there. Keys are compared in lowercase.

An empty table that is set over a single value leaves it, for there is no key to merge.
-/

namespace Numbering

inductive Scalar
  | text (text : Text)
  | boolean (value : Bool)
  | integer (number : Int)
  | float (number : Binary64)
  deriving DecidableEq, Repr

/-- An entry of the tree of settings, with the file it came from. -/
inductive Entry
  | scalar (origin : Option Text) (value : Scalar)
  | list (origin : Option Text) (items : List Entry)
  | table (origin : Option Text) (fields : List (Text × Entry))
  deriving Repr

namespace Entry

def empty : Entry :=
  .table none []

/-- The entries of a table by key; anything else has none. -/
def fields : Entry → List (Text × Entry)
  | .table _ fields => fields
  | _ => []

/-- The items of a list; anything else has none. -/
def items : Entry → List Entry
  | .list _ items => items
  | _ => []

def origin : Entry → Option Text
  | .scalar origin _ => origin
  | .list origin _ => origin
  | .table origin _ => origin

def get? (entry : Entry) (key : Text) : Option Entry :=
  entry.fields.lookup key

/-- Fields with the entry at a key replaced, or added at the end. -/
def putField (key : Text) (value : Entry) : List (Text × Entry) → List (Text × Entry)
  | [] => [(key, value)]
  | field :: rest => if field.1 = key then (key, value) :: rest else field :: putField key value rest

/-- The entry with one field set; anything but a table becomes one. -/
def put (root : Entry) (key : Text) (value : Entry) : Entry :=
  match root with
  | .table origin fields => .table origin (putField key value fields)
  | _ => .table none [(key, value)]

mutual

/-- Sets an entry at a key. A table is merged into the entry at the key. -/
def set (root : Entry) (key : Text) : (value : Entry) → Entry
  | .table _ incoming =>
    let key := Text.toLowercase key
    root.put key (merge ((root.get? key).getD empty) incoming)
  | .scalar origin value => root.put (Text.toLowercase key) (.scalar origin value)
  | .list origin items => root.put (Text.toLowercase key) (.list origin items)

/-- Sets all fields in order. -/
def merge (root : Entry) : (incoming : List (Text × Entry)) → Entry
  | [] => root
  | (key, value) :: rest => merge (root.set key value) rest

end

mutual

def ofValue (origin : Option Text) : Toml.Value → Entry
  | .text text => .scalar origin (.text text)
  | .integer number => .scalar origin (.integer number)
  | .float number => .scalar origin (.float number)
  | .boolean value => .scalar origin (.boolean value)
  | .datetime moment => .scalar origin (.text moment.render)
  | .array _ items => .list origin (ofItems origin items)
  | .table _ fields => .table origin (ofFields origin fields)

def ofItems (origin : Option Text) : List Toml.Value → List Entry
  | [] => []
  | value :: rest => ofValue origin value :: ofItems origin rest

def ofFields (origin : Option Text) : List (Text × Toml.Value) → List (Text × Entry)
  | [] => []
  | (key, value) :: rest => (key, ofValue origin value) :: ofFields origin rest

end

end Entry

end Numbering
