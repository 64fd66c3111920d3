import Numbering.Toml.Value

/-! # Moments wrapped in tables

A moment can be handed over as a table whose first key is reserved for it, with the written moment
as a text. Such a table stands for the moment, whatever fields follow the first, and a reserved first
key without a written moment is a fault. `unwrap?` replaces all such tables in a value.
-/

namespace Numbering.Toml

/-- The key that is reserved for a wrapped moment. -/
def momentKey : Text :=
  "$__toml_private_datetime".toList

def Fields.isWrapped (fields : Fields) : Bool :=
  fields.head?.any fun field => field.1 == momentKey

/-- The moment that the first field of a table writes. -/
def Fields.moment? (fields : Fields) : Option Datetime :=
  match fields with
  | (_, .text written) :: _ => Datetime.read? written
  | _ => none

mutual

def Value.unwrap? : Value → Option Value
  | .array growing items => (unwrapItems? items).map (.array growing)
  | .table opening fields =>
    if Fields.isWrapped fields then (Fields.moment? fields).map .datetime
    else (unwrapFields? fields).map (.table opening)
  | .text text => some (.text text)
  | .integer number => some (.integer number)
  | .float number => some (.float number)
  | .boolean value => some (.boolean value)
  | .datetime moment => some (.datetime moment)

def unwrapItems? : List Value → Option (List Value)
  | [] => some []
  | item :: rest => do
    let item ← item.unwrap?
    let rest ← unwrapItems? rest
    return item :: rest

def unwrapFields? : List (Text × Value) → Option (List (Text × Value))
  | [] => some []
  | (key, value) :: rest => do
    let value ← value.unwrap?
    let rest ← unwrapFields? rest
    return (key, value) :: rest

end

end Numbering.Toml
