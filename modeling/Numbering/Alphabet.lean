import Numbering.Character.Alphabetic
import Numbering.Character.CaseMapping
import Numbering.Text

/-! # Alphabets

An alphabet is an ordered list of at least two letters that stay distinct when case is ignored. The
place of a letter, counted from zero, is its digit when words are counted through the alphabet.

`ofLetters` accepts a list of letters or names the first fault in it; `place?_letter` says that
every letter is found at its own place.
-/

namespace Numbering

open Character

inductive AlphabetError
  | tooShort (count : Nat)
  | duplicate (letter : Char)
  | notALetter (letter : Char)
  deriving DecidableEq, Repr

def AlphabetError.message : AlphabetError → String
  | .tooShort count => s!"alphabet needs at least two letters, got {count}"
  | .duplicate letter =>
    s!"alphabet contains '{letter}' more than once (letters are compared case-insensitively)"
  | .notALetter letter => s!"alphabet letters must be alphabetic characters, got '{letter}'"

/-- An ordered list of at least two letters that differ even when case is ignored. -/
structure Alphabet where
  letters : List Char
  two_le_length : 2 ≤ letters.length
  alphabetic : ∀ letter ∈ letters, isAlphabetic letter = true
  folds_nodup : (letters.map fold).Nodup
  deriving DecidableEq

namespace Alphabet

/-- The first letter that is not alphabetic or repeats the fold of an earlier one. -/
def firstFault? (seen : List Char) : List Char → Option AlphabetError
  | [] => none
  | letter :: rest =>
    if isAlphabetic letter = false then some (.notALetter letter)
    else if fold letter ∈ seen then some (.duplicate letter)
    else firstFault? (fold letter :: seen) rest

theorem firstFault?_eq_none {seen letters : List Char} (clean : firstFault? seen letters = none) :
    (∀ letter ∈ letters, isAlphabetic letter = true) ∧ (letters.map fold).Nodup ∧
      ∀ letter ∈ letters, fold letter ∉ seen := by
  induction letters generalizing seen with
  | nil => simp
  | cons letter rest ih =>
    unfold firstFault? at clean
    split at clean
    · cases clean
    · rename_i isLetter
      split at clean
      · cases clean
      · rename_i fresh
        obtain ⟨alphabetic, distinct, unseen⟩ := ih clean
        refine ⟨?_, ?_, ?_⟩
        · intro other member
          rcases List.mem_cons.mp member with rfl | later
          · simpa using isLetter
          · exact alphabetic other later
        · rw [List.map_cons, List.nodup_cons]
          refine ⟨?_, distinct⟩
          intro repeated
          obtain ⟨other, member, same⟩ := List.mem_map.mp repeated
          exact unseen other member (same ▸ List.mem_cons_self)
        · intro other member
          rcases List.mem_cons.mp member with rfl | later
          · exact fresh
          · exact fun old => unseen other later (List.mem_cons_of_mem _ old)

/-- The alphabet of the given letters, or the first fault in them. -/
def ofLetters (letters : List Char) : Except AlphabetError Alphabet :=
  if short : letters.length < 2 then .error (.tooShort letters.length)
  else match clean : firstFault? [] letters with
    | some fault => .error fault
    | none =>
      .ok ⟨letters, by omega, (firstFault?_eq_none clean).1, (firstFault?_eq_none clean).2.1⟩

def latin : Alphabet where
  letters :=
    ['a', 'b', 'c', 'd', 'e', 'f', 'g', 'h', 'i', 'j', 'k', 'l', 'm', 'n', 'o', 'p', 'q', 'r', 's',
      't', 'u', 'v', 'w', 'x', 'y', 'z']
  two_le_length := by decide
  alphabetic := List.all_eq_true.mp (by decide)
  folds_nodup := by decide

/-- The number of letters, which is the base in which words count. -/
def size (alphabet : Alphabet) : Nat :=
  alphabet.letters.length

def render (alphabet : Alphabet) : Text :=
  alphabet.letters

/-- The place of a letter, without regard to case. -/
def place? (alphabet : Alphabet) (letter : Char) : Option Nat :=
  let folded := fold letter
  alphabet.letters.findIdx? fun other => fold other == folded

/-- Every letter is found at its own place: no earlier one has its fold. -/
theorem place?_letter {alphabet : Alphabet} {place : Nat} {letter : Char}
    (listed : alphabet.letters[place]? = some letter) :
    alphabet.place? letter = some place := by
  obtain ⟨inside, here⟩ := List.getElem?_eq_some_iff.mp listed
  refine List.findIdx?_eq_some_iff_getElem.mpr ⟨inside, by simp [here], ?_⟩
  intro earlier before same
  have distinct := List.pairwise_iff_getElem.mp alphabet.folds_nodup earlier place
    (by simp; omega) (by simpa using inside) before
  simp only [List.getElem_map, here] at distinct
  exact distinct (by simpa using same)

def contains (alphabet : Alphabet) (letter : Char) : Bool :=
  (alphabet.place? letter).isSome

end Alphabet

end Numbering
