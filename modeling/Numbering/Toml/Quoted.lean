import Numbering.Toml.Number

/-! # Quoted texts of a document

A text stands between double quotes, with escapes, or between apostrophes, as it is. Three quotes on
each side allow line ends inside: the first one is dropped if it follows the opening quotes at once,
and up to two quotes may stand before the closing ones. A backslash at the end of a line takes the
white space after it away.

Each function reads what follows the opening quote and returns the text and what follows the closing
one.
-/

namespace Numbering.Toml

/-- Whether a character may stand in a text or comment: the tab, and every character but controls. -/
def isTextChar (c : Char) : Bool :=
  c == '\t' || (' ' ≤ c && c != '\x7f')

def shortEscape? (c : Char) : Option Char :=
  if c = 'b' then some '\x08'
  else if c = 't' then some '\t'
  else if c = 'n' then some '\n'
  else if c = 'f' then some '\x0c'
  else if c = 'r' then some '\r'
  else if c = '"' then some '"'
  else if c = '\\' then some '\\'
  else none

/-- The character with a code point in hexadecimal. -/
def codePoint? (digits : Text) : Option Char :=
  let point := Numeral.value 16 (digits.map digitValue)
  if digits.all (isDigitIn 16) ∧ point.isValidChar then some (Char.ofNat point) else none

/-- A read text with one more character in front. -/
def withChar (c : Char) (read : Option (Text × Text)) : Option (Text × Text) :=
  read.map fun (text, rest) => (c :: text, rest)

def basicText? : Text → Option (Text × Text)
  | [] => none
  | '"' :: rest => some ([], rest)
  | '\\' :: 'u' :: a :: b :: c :: d :: rest => do
    let escaped ← codePoint? [a, b, c, d]
    withChar escaped (basicText? rest)
  | '\\' :: 'U' :: a :: b :: c :: d :: e :: f :: g :: h :: rest => do
    let escaped ← codePoint? [a, b, c, d, e, f, g, h]
    withChar escaped (basicText? rest)
  | '\\' :: letter :: rest => do
    let escaped ← shortEscape? letter
    withChar escaped (basicText? rest)
  | c :: rest => if isTextChar c then withChar c (basicText? rest) else none

def literalText? : Text → Option (Text × Text)
  | [] => none
  | '\'' :: rest => some ([], rest)
  | c :: rest => if isTextChar c then withChar c (literalText? rest) else none

/-- Whether blanks and a line end follow. -/
def endsLine (text : Text) : Bool :=
  match text.dropWhile fun c => c == ' ' || c == '\t' with
  | '\n' :: _ => true
  | '\r' :: '\n' :: _ => true
  | _ => false

/-- Reads up to three double quotes; `trimming` drops white space. -/
def longBasicText? (trimming : Bool) : Text → Option (Text × Text)
  | [] => none
  | '"' :: '"' :: '"' :: '"' :: '"' :: rest => some (['"', '"'], rest)
  | '"' :: '"' :: '"' :: '"' :: rest => some (['"'], rest)
  | '"' :: '"' :: '"' :: rest => some ([], rest)
  | '\r' :: '\n' :: rest =>
    if trimming then longBasicText? true rest else withChar '\n' (longBasicText? false rest)
  | '\n' :: rest =>
    if trimming then longBasicText? true rest else withChar '\n' (longBasicText? false rest)
  | '\\' :: 'u' :: a :: b :: c :: d :: rest => do
    let escaped ← codePoint? [a, b, c, d]
    withChar escaped (longBasicText? false rest)
  | '\\' :: 'U' :: a :: b :: c :: d :: e :: f :: g :: h :: rest => do
    let escaped ← codePoint? [a, b, c, d, e, f, g, h]
    withChar escaped (longBasicText? false rest)
  | '\\' :: letter :: rest =>
    if endsLine (letter :: rest) then longBasicText? true (letter :: rest)
    else do
      let escaped ← shortEscape? letter
      withChar escaped (longBasicText? false rest)
  | c :: rest =>
    if trimming && (c == ' ' || c == '\t') then longBasicText? true rest
    else if isTextChar c then withChar c (longBasicText? false rest)
    else none

def longLiteralText? : Text → Option (Text × Text)
  | [] => none
  | '\'' :: '\'' :: '\'' :: '\'' :: '\'' :: rest => some (['\'', '\''], rest)
  | '\'' :: '\'' :: '\'' :: '\'' :: rest => some (['\''], rest)
  | '\'' :: '\'' :: '\'' :: rest => some ([], rest)
  | '\r' :: '\n' :: rest => withChar '\n' (longLiteralText? rest)
  | '\n' :: rest => withChar '\n' (longLiteralText? rest)
  | c :: rest => if isTextChar c then withChar c (longLiteralText? rest) else none

/-- What follows a line end right behind opening quotes. -/
def dropFirstLineEnd : Text → Text
  | '\n' :: rest => rest
  | '\r' :: '\n' :: rest => rest
  | text => text

/-- A text in any of the four forms of quotes at the start of a text, if it begins with one. -/
def quoted? : Text → Option (Option (Text × Text))
  | '"' :: '"' :: '"' :: rest => some (longBasicText? false (dropFirstLineEnd rest))
  | '"' :: rest => some (basicText? rest)
  | '\'' :: '\'' :: '\'' :: rest => some (longLiteralText? (dropFirstLineEnd rest))
  | '\'' :: rest => some (literalText? rest)
  | _ => none

end Numbering.Toml
