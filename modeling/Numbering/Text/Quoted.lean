import Numbering.Character.Printable
import Numbering.Numeral
import Numbering.Text

/-! # Quoted text

Two ways to write a text between double quotes. The plain one shows every character that is
visible by itself and gives the code point of all others in hexadecimal; a single character is
quoted the same way between apostrophes. The interchange one escapes only the quote, the backslash
and the controls below the blank.
-/

namespace Numbering.Text

open Character

def hexadecimal (number : Nat) : Text :=
  (Numeral.places 16 (by decide) number).map Numeral.digitChar

/-- One character of a plain quoted form, where `delimiter` is the quote around the whole. -/
def escapePlain (delimiter c : Char) : Text :=
  if c = '\x00' then ['\\', '0']
  else if c = '\t' then ['\\', 't']
  else if c = '\r' then ['\\', 'r']
  else if c = '\n' then ['\\', 'n']
  else if c = '\\' ∨ c = delimiter then ['\\', c]
  else if isAttaching c || !isPrintable c then
    ['\\', 'u', '{'] ++ hexadecimal c.toNat ++ ['}']
  else [c]

/-- A text between double quotes, invisible characters by code point. -/
def quotePlain (text : Text) : Text :=
  ['"'] ++ text.flatMap (escapePlain '"') ++ ['"']

/-- A character between apostrophes, written by code point if it is invisible. -/
def quoteCharacter (c : Char) : Text :=
  ['\''] ++ escapePlain '\'' c ++ ['\'']

def escapeInterchange (c : Char) : Text :=
  if c = '"' then ['\\', '"']
  else if c = '\\' then ['\\', '\\']
  else if c = '\x08' then ['\\', 'b']
  else if c = '\x0c' then ['\\', 'f']
  else if c = '\n' then ['\\', 'n']
  else if c = '\r' then ['\\', 'r']
  else if c = '\t' then ['\\', 't']
  else if c.toNat < 0x20 then ['\\', 'u'] ++ padHex (hexadecimal c.toNat)
  else [c]
where
  /-- Four hexadecimal digits. -/
  padHex (digits : Text) : Text := List.replicate (4 - digits.length) '0' ++ digits

/-- A text between double quotes, only quotes, backslashes and controls escaped. -/
def quoteInterchange (text : Text) : Text :=
  ['"'] ++ text.flatMap escapeInterchange ++ ['"']

end Numbering.Text
