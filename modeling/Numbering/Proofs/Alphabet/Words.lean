import Mathlib.Data.List.Nodup
import Mathlib.Data.List.Perm.Subperm
import Mathlib.Data.List.Range
import Mathlib.Data.Set.Function
import Numbering.Alphabet.Advance
import Numbering.Proofs.Numeral.Bijective
import Numbering.Proofs.Traversal

/-! # Words and their places

The places of a word are digits below the size of the alphabet, and digits below the size are the
places of the word that they spell. Among words of the alphabet's own letters this goes both ways,
so such a word is determined by the number that it counts. An alphabet has no more letters than
there are characters.
-/

namespace Numbering.Alphabet

variable {alphabet : Alphabet} {places : List Nat} {word : Text}

/-- The number that a word counts is the weighted sum of the places of its letters. -/
def Counts (alphabet : Alphabet) (word : Text) (number : Int) : Prop :=
  ∃ places, alphabet.places? word = some places ∧
    (Bijective.weightedSum alphabet.size places : Int) = number

/-- A word of the letters of an alphabet as the alphabet writes them. -/
def Owns (alphabet : Alphabet) (word : Text) : Prop :=
  ∀ letter ∈ word, letter ∈ alphabet.letters

theorem length_le_of_nodup {letters : List Char} (distinct : letters.Nodup) :
    letters.length ≤ 0x110000 := by
  have points : (letters.map Char.toNat).Nodup :=
    distinct.map fun first second same => Char.toNat_inj.mp same
  have inside : letters.map Char.toNat ⊆ List.range 0x110000 := by
    intro point member
    obtain ⟨c, -, rfl⟩ := List.mem_map.mp member
    have valid : c.toNat.isValidChar := c.valid
    rw [List.mem_range]
    rcases valid with low | ⟨-, high⟩ <;> omega
  have bound := (List.subperm_of_subset points inside).length_le
  rwa [List.length_map, List.length_range] at bound

theorem two_le_size (alphabet : Alphabet) : 2 ≤ alphabet.size :=
  alphabet.two_le_length

theorem fold_injOn (alphabet : Alphabet) :
    Set.InjOn Character.fold {letter | letter ∈ alphabet.letters} :=
  List.inj_on_of_nodup_map alphabet.folds_nodup

theorem size_le (alphabet : Alphabet) : alphabet.size ≤ 2 ^ 64 := by
  have bound := length_le_of_nodup alphabet.folds_nodup
  rw [List.length_map] at bound
  rw [size]
  omega

theorem place?_lt {letter : Char} {place : Nat} (found : alphabet.place? letter = some place) :
    place < alphabet.size := by
  obtain ⟨inside, -⟩ := List.findIdx?_eq_some_iff_getElem.mp found
  exact inside

/-- Letters with one fold stand at one place, and no others do. -/
theorem place?_eq_some_iff {letter other : Char} {place : Nat}
    (found : alphabet.place? letter = some place) :
    alphabet.place? other = some place ↔ Character.fold other = Character.fold letter := by
  constructor
  · intro found'
    obtain ⟨inside, same, -⟩ := List.findIdx?_eq_some_iff_getElem.mp found
    obtain ⟨inside', same', -⟩ := List.findIdx?_eq_some_iff_getElem.mp found'
    rw [← beq_iff_eq.mp same, ← beq_iff_eq.mp same']
  · intro same
    rw [place?, same]
    exact found

theorem lt_of_mem_places (found : alphabet.places? word = some places) :
    ∀ place ∈ places, place < alphabet.size := by
  have each := mapM_eq_some_iff.mp found
  clear found
  induction each with
  | nil => simp
  | cons head _ ih =>
    intro place member
    rcases List.mem_cons.mp member with rfl | member
    · exact place?_lt head
    · exact ih place member

theorem places_ne_nil (found : alphabet.places? word = some places) (filled : word ≠ []) :
    places ≠ [] := by
  rintro rfl
  exact filled (List.forall₂_nil_right_iff.mp (mapM_eq_some_iff.mp found))

/-- The last place of a word is that of its last letter. -/
theorem getLast?_places (found : alphabet.places? word = some places) :
    places.getLast? = word.getLast?.bind alphabet.place? := by
  have backwards := List.forall₂_reverse_iff.mpr (mapM_eq_some_iff.mp found)
  rw [← List.head?_reverse, ← List.head?_reverse]
  generalize word.reverse = letters, places.reverse = digits at backwards
  cases backwards with
  | nil => rfl
  | cons last _ => exact last.symm

/-- Places below the size are spelled with one letter each. -/
theorem spell_cons {place : Nat} (inside : place < alphabet.letters.length) (rest : List Nat) :
    alphabet.spell (place :: rest) = alphabet.letters[place] :: alphabet.spell rest := by
  rw [spell, List.filterMap_cons_some (List.getElem?_eq_getElem inside)]
  rfl

theorem places?_cons {letter : Char} {place : Nat} (found : alphabet.place? letter = some place)
    {rest : Text} (later : alphabet.places? rest = some places) :
    alphabet.places? (letter :: rest) = some (place :: places) :=
  mapM_eq_some_iff.mpr (.cons found (mapM_eq_some_iff.mp later))

/-- Words have the same places exactly if their letters have the same folds. -/
theorem places?_eq_some_iff {other : Text} (found : alphabet.places? word = some places) :
    alphabet.places? other = some places ↔
      other.map Character.fold = word.map Character.fold := by
  rw [places?, mapM_eq_some_iff]
  have each := mapM_eq_some_iff.mp found
  clear found
  induction each generalizing other with
  | nil => simp
  | cons head _ ih =>
    cases other with
    | nil => simp
    | cons letter rest =>
      rw [List.forall₂_cons, place?_eq_some_iff head, List.map_cons, List.map_cons,
        List.cons.injEq]
      exact and_congr_right fun _ => ih

theorem places?_spell (small : ∀ place ∈ places, place < alphabet.size) :
    alphabet.places? (alphabet.spell places) = some places := by
  induction places with
  | nil => rfl
  | cons place rest ih =>
    have inside : place < alphabet.size := small place (by simp)
    rw [spell_cons inside]
    exact places?_cons (place?_letter (List.getElem?_eq_getElem inside))
      (ih fun other member => small other (List.mem_cons_of_mem _ member))

theorem owns_spell (alphabet : Alphabet) (places : List Nat) :
    alphabet.Owns (alphabet.spell places) := by
  intro letter member
  obtain ⟨place, -, found⟩ := List.mem_filterMap.mp member
  exact List.mem_of_getElem? found

theorem Owns.exists_place? (own : alphabet.Owns word) {letter : Char} (member : letter ∈ word) :
    ∃ place, alphabet.place? letter = some place := by
  obtain ⟨place, here⟩ := List.getElem?_of_mem (own letter member)
  exact ⟨place, place?_letter here⟩

theorem Owns.exists_places? (own : alphabet.Owns word) :
    ∃ places, alphabet.places? word = some places := by
  cases found : alphabet.places? word with
  | some places => exact ⟨places, rfl⟩
  | none =>
    obtain ⟨letter, member, lost⟩ := mapM_eq_none_iff.mp found
    obtain ⟨place, here⟩ := own.exists_place? member
    rw [here] at lost
    cases lost

theorem spell_of_places? (own : alphabet.Owns word) (found : alphabet.places? word = some places) :
    alphabet.spell places = word := by
  have each := mapM_eq_some_iff.mp found
  clear found
  induction each with
  | nil => rfl
  | @cons letter place letters places head _ ih =>
    obtain ⟨index, inside, same⟩ := List.getElem_of_mem (own letter (by simp))
    have here : alphabet.place? letter = some _ :=
      place?_letter (List.getElem?_eq_some_iff.mpr ⟨inside, same⟩)
    obtain rfl := Option.some.inj (head.symm.trans here)
    rw [spell_cons inside, same, ih fun other member => own other (List.mem_cons_of_mem _ member)]

/-- A word of known letters counts a number. -/
theorem exists_counts_of_contains (known : ∀ letter ∈ word, alphabet.contains letter = true) :
    ∃ number, alphabet.Counts word number := by
  cases found : alphabet.places? word with
  | some places => exact ⟨_, places, found, rfl⟩
  | none =>
    obtain ⟨letter, member, lost⟩ := mapM_eq_none_iff.mp found
    have here := known letter member
    simp [contains, lost] at here

/-- A word counts one number. -/
theorem Counts.unique {number other : Int} (counts : alphabet.Counts word number)
    (counts' : alphabet.Counts word other) : number = other := by
  obtain ⟨places, found, rfl⟩ := counts
  obtain ⟨places', found', rfl⟩ := counts'
  rw [Option.some.inj (found.symm.trans found')]

/-- Words of the alphabet's own letters that count one number are equal. -/
theorem eq_of_counts {other : Text} {number : Int} (own : alphabet.Owns word)
    (own' : alphabet.Owns other) (counts : alphabet.Counts word number)
    (counts' : alphabet.Counts other number) : word = other := by
  obtain ⟨places, found, sum⟩ := counts
  obtain ⟨places', found', sum'⟩ := counts'
  have same : Bijective.value alphabet.size places = Bijective.value alphabet.size places' := by
    rw [Bijective.value_eq_weightedSum, Bijective.value_eq_weightedSum]
    exact_mod_cast sum.trans sum'.symm
  have equal := Bijective.eq_of_value_eq (lt_of_mem_places found) (lt_of_mem_places found') same
  rw [← spell_of_places? own found, ← spell_of_places? own' found', equal]

end Numbering.Alphabet
