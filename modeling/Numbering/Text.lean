import Numbering.Character.RangeSet

/-! # Text

A text is the list of its characters. Columns, widths and offsets all count characters, so a place
in a text never falls inside one. White space, which many readers skip, is the Unicode property: the
ASCII blanks and line ends, the next-line control, the no-break and typographic spaces, and the line
and paragraph separators.
-/

namespace Numbering

namespace Character

def whiteSpaceRanges : RangeSet :=
  [(0x9, 0xD), (0x20, 0x20), (0x85, 0x85), (0xA0, 0xA0), (0x1680, 0x1680), (0x2000, 0x200A),
   (0x2028, 0x2029), (0x202F, 0x202F), (0x205F, 0x205F), (0x3000, 0x3000)]

/-- Whether a character has the property White_Space. -/
def isWhiteSpace (c : Char) : Bool :=
  RangeSet.covers whiteSpaceRanges c.toNat

end Character

/-- A text is the list of its characters. -/
abbrev Text := List Char

namespace Text

/-- The parts in order, with the separator between neighbours. -/
def join (separator : Text) (parts : List Text) : Text :=
  List.intercalate separator parts

/-- The text after its leading white space. -/
def skipBlank (text : Text) : Text :=
  text.dropWhile Character.isWhiteSpace

/-- The text without white space at either end. -/
def trim (text : Text) : Text :=
  (skipBlank (skipBlank text).reverse).reverse

/-- What stands before and after the first occurrence of a separator. -/
def splitOnce? (separator : Text) : Text → Option (Text × Text)
  | [] => none
  | c :: rest =>
    if separator.isPrefixOf (c :: rest) then some ([], (c :: rest).drop separator.length)
    else (splitOnce? separator rest).map fun (before, after) => (c :: before, after)

/-- The two sides of a split and the separator make up the text. -/
theorem eq_of_splitOnce? {separator text before after : Text}
    (split : splitOnce? separator text = some (before, after)) :
    text = before ++ separator ++ after := by
  induction text generalizing before with
  | nil => simp [splitOnce?] at split
  | cons c rest ih =>
    by_cases here : separator.isPrefixOf (c :: rest) = true
    · simp only [splitOnce?, here, ↓reduceIte, Option.some.injEq, Prod.mk.injEq] at split
      obtain ⟨rfl, rfl⟩ := split
      obtain ⟨tail, same⟩ := List.isPrefixOf_iff_prefix.mp here
      simp [← same]
    · simp only [splitOnce?, here, Bool.false_eq_true, ↓reduceIte, Option.map_eq_some_iff,
        Prod.mk.injEq] at split
      obtain ⟨⟨front, back⟩, found, rfl, rfl⟩ := split
      simp [ih found]

/-! ## Padding on the left

A width counts characters and never a leading sign. Padding only adds characters: a text that is at
or past the width stays as it is. `length_padLeft` gives the length of every padded text.
-/

/-- A leading sign, if there is one, and what follows it. -/
def splitSign : Text → Text × Text
  | '+' :: rest => (['+'], rest)
  | '-' :: rest => (['-'], rest)
  | text => ([], text)

/-- Fill before a text up to a width, no character being taken as a sign. -/
def padLeft (width : Nat) (fill : Char) (text : Text) : Text :=
  List.replicate (width - text.length) fill ++ text

/-- Fill between a leading sign and the rest, the width counting the rest only. -/
def padSigned (width : Nat) (fill : Char) (text : Text) : Text :=
  (splitSign text).1 ++ padLeft width fill (splitSign text).2

theorem length_padLeft (width : Nat) (fill : Char) (text : Text) :
    (padLeft width fill text).length = max width text.length := by
  simp only [padLeft, List.length_append, List.length_replicate]
  omega

@[simp]
theorem padLeft_zero (fill : Char) (text : Text) : padLeft 0 fill text = text := by
  simp [padLeft]

theorem padLeft_ne_nil {width : Nat} {fill : Char} {text : Text} (filled : text ≠ []) :
    padLeft width fill text ≠ [] :=
  List.append_ne_nil_of_right_ne_nil _ filled

end Text

end Numbering
