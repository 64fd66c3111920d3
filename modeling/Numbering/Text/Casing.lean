import Numbering.Character.CaseIgnorable
import Numbering.Character.CaseMapping
import Numbering.Character.LetterCase
import Numbering.Text

/-! # The case of a whole text

Uppercase is a mapping of single characters. Lowercase depends on context in one place: a capital
sigma that ends a word becomes the final form of the small sigma. It ends a word if a cased letter
stands before it and none after it, where characters that case looks through do not count.
-/

namespace Numbering.Text

open Character

/-- Whether the first character that case does not look through is cased. -/
def startsCased (text : Text) : Bool :=
  match text.dropWhile isCaseIgnorable with
  | [] => false
  | c :: _ => isCased c

/-- The small sigma for a capital one, given the text before it in reverse and the text after. -/
def sigma (before after : Text) : Char :=
  if startsCased before && !startsCased after then 'ς' else 'σ'

/-- Lowercase of a text that follows another, which is given in reverse. -/
def lowercaseAfter (before : Text) : Text → Text
  | [] => []
  | c :: rest =>
    (if c = 'Σ' then [sigma before rest] else lowercase c) ++ lowercaseAfter (c :: before) rest

def toLowercase (text : Text) : Text :=
  lowercaseAfter [] text

def toUppercase (text : Text) : Text :=
  text.flatMap uppercase

end Numbering.Text
