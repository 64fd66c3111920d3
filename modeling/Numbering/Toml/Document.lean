import Numbering.Toml.Quoted
import Numbering.Toml.Wrapped

/-! # Configuration documents

A document is a sequence of lines, each a field `key = value`, a header `[key]` or `[[key]]`, or
blank, and each with an optional comment. A key is one or more names joined by points. The fields
after a header belong to the table that it names. `read?` gives the root table, and nothing for a
text that is not written in this form, sets a field twice, or reopens a table that is complete. A
byte order mark before the document is dropped.

Arrays, inline tables and keys nest less than eighty deep. The scanning functions take a bound on
their own recursion, which the length of the text exceeds by no step: every step consumes a
character.
-/

namespace Numbering.Toml

/-- The depth that nested values and keys stay below. -/
def maxDepth : Nat := 80

/-- The text after blanks and tabs. -/
def skipSpaces (text : Text) : Text :=
  text.dropWhile fun c => c == ' ' || c == '\t'

/-- The text after blanks, line ends and comments; nothing if a comment holds a control. -/
def skipTrivia? (inComment : Bool) : Text → Option Text
  | [] => some []
  | '\n' :: rest => skipTrivia? false rest
  | '\r' :: '\n' :: rest => skipTrivia? false rest
  | c :: rest =>
    if inComment then if isTextChar c then skipTrivia? true rest else none
    else if c == ' ' || c == '\t' then skipTrivia? false rest
    else if c == '#' then skipTrivia? true rest
    else some (c :: rest)

/-- Whether a name may hold a character without quotes. -/
def isNameChar (c : Char) : Bool :=
  c.isAlphanum || c == '_' || c == '-'

/-- A name at the start of a text, bare or in single quotes of either kind. -/
def scanName? (text : Text) : Option (Text × Text) :=
  match text with
  | '"' :: rest => basicText? rest
  | '\'' :: rest => literalText? rest
  | _ =>
    match text.takeWhile isNameChar with
    | [] => none
    | name => some (name, text.dropWhile isNameChar)

/-- Names joined by points at the start of a text, with blanks around each. -/
def scanNames? : (bound : Nat) → Text → Option (List Text × Text)
  | 0, _ => none
  | bound + 1, text => do
    let (name, rest) ← scanName? (skipSpaces text)
    match skipSpaces rest with
    | '.' :: rest => do
      let (names, rest) ← scanNames? bound rest
      return (name :: names, rest)
    | rest => return ([name], rest)

/-- A key at the start of a text: the names of the tables on the way, and the last name. -/
def scanKey? (text : Text) : Option (List Text × Text × Text) := do
  let (names, rest) ← scanNames? maxDepth text
  let last ← names.getLast?
  if names.length < maxDepth then some (names.dropLast, last, rest) else none

def isPlainChar (c : Char) : Bool :=
  c.isAlphanum || c == '_' || c == '+' || c == '-' || c == '.'

/-- A moment, number or truth value at the start of a text. -/
def scanPlain? (text : Text) : Option (Value × Text) :=
  match Datetime.scan? text with
  | some (moment, rest) => some (.datetime moment, rest)
  | none => (plain? (text.takeWhile isPlainChar)).map (·, text.dropWhile isPlainChar)

mutual

def scanValue? : (bound depth : Nat) → Text → Option (Value × Text)
  | 0, _, _ => none
  | bound + 1, depth, text =>
    match quoted? text with
    | some read => read.map fun (content, rest) => (.text content, rest)
    | none =>
      match text with
      | '[' :: rest =>
        if depth + 1 < maxDepth then
          (scanItems? bound (depth + 1) rest).map fun (items, rest) => (.array false items, rest)
        else none
      | '{' :: rest =>
        if depth + 1 < maxDepth then do
          match skipSpaces rest with
          | '}' :: rest => return (.table .inline [], rest)
          | rest => do
            let (fields, rest) ← scanMembers? bound (depth + 1) [] rest
            return (.table .inline fields, rest)
        else none
      | _ => scanPlain? text

/-- The items of an array up to its closing bracket; a comma may follow the last one. -/
def scanItems? : (bound depth : Nat) → Text → Option (List Value × Text)
  | 0, _, _ => none
  | bound + 1, depth, text => do
    match ← skipTrivia? false text with
    | ']' :: rest => return ([], rest)
    | text => do
      let (item, rest) ← scanValue? bound depth text
      match ← skipTrivia? false rest with
      | ',' :: rest => do
        let (items, rest) ← scanItems? bound depth rest
        return (item :: items, rest)
      | ']' :: rest => return ([item], rest)
      | _ => none

/-- The fields of an inline table up to its closing brace, added to those already read. -/
def scanMembers? : (bound depth : Nat) → Fields → Text → Option (Fields × Text)
  | 0, _, _, _ => none
  | bound + 1, depth, fields, text => do
    let (path, key, rest) ← scanKey? text
    let rest ← scanMark? '=' rest
    let (value, rest) ← scanValue? bound depth (skipSpaces rest)
    let fields ← fields.setDotted? key value path
    match skipSpaces rest with
    | ',' :: rest => scanMembers? bound depth fields rest
    | '}' :: rest => return (fields, rest)
    | _ => none

end

/-- A line of a document that says something. -/
inductive Statement
  | field (path : List Text) (key : Text) (value : Value)
  | table (path : List Text) (key : Text)
  | element (path : List Text) (key : Text)
  deriving Repr

def scanStatement? (text : Text) : Option (Statement × Text) :=
  match text with
  | '[' :: '[' :: rest => do
    let (path, key, rest) ← scanKey? rest
    let rest ← scanMark? ']' rest
    let rest ← scanMark? ']' rest
    return (.element path key, rest)
  | '[' :: rest => do
    let (path, key, rest) ← scanKey? rest
    let rest ← scanMark? ']' rest
    return (.table path key, rest)
  | _ => do
    let (path, key, rest) ← scanKey? text
    let rest ← scanMark? '=' rest
    let (value, rest) ← scanValue? (text.length + 1) 0 (skipSpaces rest)
    return (.field path key value, rest)

/-- What follows the comment and the end of a line. -/
def endLine? (text : Text) : Option Text :=
  let rest := match skipSpaces text with
    | '#' :: comment => comment.dropWhile isTextChar
    | rest => rest
  match rest with
  | [] => some []
  | '\n' :: rest => some rest
  | '\r' :: '\n' :: rest => some rest
  | _ => none

/-- The statements of a document in order. -/
def scanStatements? : (bound : Nat) → Text → Option (List Statement)
  | 0, _ => none
  | bound + 1, text =>
    match skipSpaces text with
    | [] => some []
    | text =>
      match endLine? text with
      | some rest => scanStatements? bound rest
      | none => do
        let (statement, rest) ← scanStatement? text
        let rest ← endLine? rest
        let statements ← scanStatements? bound rest
        return statement :: statements

/-- Adds a statement to the root table; `current` is the path of the table that gets fields. -/
def Statement.add? (root : Fields) (current : List Text) : Statement → Option (Fields × List Text)
  | .field path key value =>
    (Fields.atHeader? (Fields.setDotted? key value path) current root).map (·, current)
  | .table path key => (Fields.atHeader? (Fields.openTable? key) path root).map (·, path ++ [key])
  | .element path key =>
    (Fields.atHeader? (Fields.openElement? key) path root).map (·, path ++ [key])

/-- The text after a byte order mark, which says nothing here. -/
def skipOrderMark : Text → Text
  | '\uFEFF' :: rest => rest
  | text => text

/-- The root table of a document, which stands for no wrapped moment itself. -/
def read? (text : Text) : Option Fields := do
  let text := skipOrderMark text
  let statements ← scanStatements? (text.length + 1) text
  let (root, _) ← statements.foldlM (fun (root, current) => Statement.add? root current) ([], [])
  if Fields.isWrapped root then none else unwrapFields? root

end Numbering.Toml
