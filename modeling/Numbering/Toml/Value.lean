import Numbering.Numeral.Binary64
import Numbering.Toml.Datetime

/-! # Values of a configuration document

A document is a table of values by key, and its arrays and tables hold further values. A table
remembers how it came about, for that decides what may still be added to it: a table from a header
is complete but for tables of its own, one that a header or a dotted key only passes through can be
completed in the same manner, and an inline table is closed, as is an array that was written out.
-/

namespace Numbering.Toml

/-- How a table came about. -/
inductive Opening
  /-- Written between braces. -/
  | inline
  /-- Named by a header of its own. -/
  | header
  /-- Passed through by the header of another table. -/
  | implied
  /-- Passed through by a dotted key. -/
  | dotted
  deriving DecidableEq, Repr

/-- A value of a document. A growing array is one of tables that headers add. -/
inductive Value
  | text (text : Text)
  | integer (number : Int)
  | float (number : Binary64)
  | boolean (value : Bool)
  | datetime (moment : Datetime)
  | array (growing : Bool) (items : List Value)
  | table (opening : Opening) (fields : List (Text × Value))
  deriving Repr

/-- The fields of a table, in the order in which they were set or opened. -/
abbrev Fields := List (Text × Value)

namespace Fields

def replace (fields : Fields) (key : Text) (value : Value) : Fields :=
  fields.map fun field => if field.1 = key then (key, value) else field

/-- Adds a field, unless the key is set already. -/
def add? (key : Text) (value : Value) (fields : Fields) : Option Fields :=
  match fields.lookup key with
  | some _ => none
  | none => some (fields ++ [(key, value)])

/-- Sets a field of the table that a header names, creating the tables on the way. The way leads
through the last table of a growing array, and through no closed value. -/
def atHeader? (act : Fields → Option Fields) : List Text → Fields → Option Fields
  | [], fields => act fields
  | key :: path, fields =>
    match fields.lookup key with
    | none => do
      let inner ← atHeader? act path []
      return fields ++ [(key, .table .implied inner)]
    | some (.table .inline _) => none
    | some (.table opening inner) => do
      let inner ← atHeader? act path inner
      return fields.replace key (.table opening inner)
    | some (.array true items) =>
      match items.getLast? with
      | some (.table opening inner) => do
        let inner ← atHeader? act path inner
        return fields.replace key (.array true (items.dropLast ++ [.table opening inner]))
      | _ => none
    | some _ => none

/-- Sets a field by a dotted key. The way leads through tables that dotted keys have made, and the
table that gets the field is one of them. -/
def setDotted? (key : Text) (value : Value) : List Text → Fields → Option Fields
  | [], fields => fields.add? key value
  | step :: path, fields =>
    match fields.lookup step with
    | none => do
      let inner ← setDotted? key value path []
      return fields ++ [(step, .table .dotted inner)]
    | some (.table .dotted inner) => do
      let inner ← setDotted? key value path inner
      return fields.replace step (.table .dotted inner)
    | some (.table .implied inner) =>
      if path.isEmpty then none
      else do
        let inner ← setDotted? key value path inner
        return fields.replace step (.table .implied inner)
    | some (.array true items) =>
      match path, items.getLast? with
      | _ :: _, some (.table opening inner) => do
        let inner ← setDotted? key value path inner
        return fields.replace step (.array true (items.dropLast ++ [.table opening inner]))
      | _, _ => none
    | some _ => none

/-- Opens the table that a header names: a new one, or one that headers have passed through. Either
stands last from then on. -/
def openTable? (key : Text) (fields : Fields) : Option Fields :=
  match fields.lookup key with
  | none => some (fields ++ [(key, .table .header [])])
  | some (.table .implied inner) =>
    some (fields.filter (·.1 ≠ key) ++ [(key, .table .header inner)])
  | some _ => none

/-- Adds a table to the growing array that a header names. -/
def openElement? (key : Text) (fields : Fields) : Option Fields :=
  match fields.lookup key with
  | none => some (fields ++ [(key, .array true [.table .header []])])
  | some (.array true items) =>
    some (fields.replace key (.array true (items ++ [.table .header []])))
  | some _ => none

end Fields

end Numbering.Toml
