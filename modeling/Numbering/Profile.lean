import Numbering.Buffer.Edit
import Numbering.Expression.Reading
import Numbering.Expression.Value

/-! # Sequences in a host

A host that offers sequences keeps an alphabet and the shape of its preview line. While text is
typed it shows the preview; on confirmation it asks for the edits that give each target its value,
or has a buffer filled directly. Nothing is remembered between two requests.
-/

namespace Numbering

/-! ## The preview line

While an expression is typed, its first values are shown in one line that ends in an ellipsis. A
text that is not an expression has an empty preview.
-/

structure PreviewShape where
  /-- The number of values before the ellipsis. -/
  count : Nat
  ellipsis : Text
  separator : Text
  deriving DecidableEq, Repr

def PreviewShape.standard : PreviewShape where
  count := 5
  ellipsis := ['.', '.', '.']
  separator := [',', ' ']

def Expression.preview (expression : Expression) (shape : PreviewShape) (alphabet : Alphabet) :
    Text :=
  Text.join shape.separator (expression.values alphabet shape.count ++ [shape.ellipsis])

def preview (text : Text) (shape : PreviewShape) (alphabet : Alphabet) : Text :=
  match Expression.read alphabet text with
  | .ok expression => expression.preview shape alphabet
  | .error _ => []

/-! ## Requests -/

/-- One edit per target: the target at each place gets the value at that index, and the reordering
flag takes the targets in reading order, those at one place as listed. -/
def Expression.plan (expression : Expression) (alphabet : Alphabet) (targets : List Target) :
    List Edit :=
  let ordered := if expression.reorder then targets.mergeSort Target.precedes else targets
  ordered.zipWith Edit.mk (expression.values alphabet ordered.length)

inductive FillError
  | rejected (reason : Rejection)
  | edit (fault : EditError)
  deriving DecidableEq, Repr

def FillError.message : FillError → String
  | .rejected reason => "not a sequence expression: " ++ reason.message
  | .edit fault => "cannot apply edits: " ++ fault.message

/-- The settings that all requests of a host share. -/
structure Profile where
  alphabet : Alphabet
  shape : PreviewShape
  deriving DecidableEq

namespace Profile

def read (profile : Profile) (text : Text) : Except Rejection Expression :=
  Expression.read profile.alphabet text

/-- The preview line for a text, empty if it is not an expression. -/
def simulate (profile : Profile) (text : Text) : Text :=
  preview text profile.shape profile.alphabet

def values (profile : Profile) (text : Text) (count : Nat) : Except Rejection (List Text) :=
  (profile.read text).map fun expression => expression.values profile.alphabet count

def plan (profile : Profile) (text : Text) (targets : List Target) :
    Except Rejection (List Edit) :=
  (profile.read text).map fun expression => expression.plan profile.alphabet targets

/-- The buffer with the values of the sequence written at the targets. -/
def fill (profile : Profile) (text buffer : Text) (targets : List Target) :
    Except FillError Text :=
  match profile.plan text targets with
  | .error reason => .error (.rejected reason)
  | .ok edits =>
    match Buffer.apply buffer edits with
    | .error fault => .error (.edit fault)
    | .ok filled => .ok filled

end Profile

end Numbering
