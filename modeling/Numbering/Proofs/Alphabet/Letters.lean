import Mathlib.Data.List.Nodup
import Numbering.Alphabet

/-! # Letters that make an alphabet

Letters are looked through from the first to the last, and each of them may have one fault: it is not
alphabetic, or it has the fold of an earlier one. An alphabet is made of two or more letters without a
fault, and the first fault is the reason for a refusal (`firstFault?_eq_some_iff`). In an alphabet a
fold therefore belongs to one place, so letters and places are told from each other
(`place?_eq_some_iff_getElem?`).
-/

namespace Numbering.Alphabet

open Character

variable {alphabet : Alphabet} {letters front : List Char} {fault other : AlphabetError}
  {index place : Nat} {letter c : Char}

/-- The fault of the letter at an index: it is not alphabetic, or else an earlier letter has its
fold. -/
inductive FaultAt (letters : List Char) (index : Nat) : AlphabetError → Prop
  | notALetter {letter : Char} (here : letters[index]? = some letter)
      (strange : isAlphabetic letter = false) : FaultAt letters index (.notALetter letter)
  | duplicate {letter : Char} (here : letters[index]? = some letter)
      (known : isAlphabetic letter = true)
      (repeated : ∃ earlier ∈ letters.take index, fold earlier = fold letter) :
      FaultAt letters index (.duplicate letter)

def FirstFault (letters : List Char) (fault : AlphabetError) : Prop :=
  ∃ index, FaultAt letters index fault ∧ ∀ earlier < index, ∀ other, ¬ FaultAt letters earlier other

/-! ## Faults of letters -/

theorem FaultAt.unique (faulty : FaultAt letters index fault) (again : FaultAt letters index other) :
    fault = other := by
  cases faulty with
  | notALetter here strange =>
    cases again with
    | notALetter here' => rw [Option.some.inj (here.symm.trans here')]
    | duplicate here' known =>
      rw [Option.some.inj (here.symm.trans here'), known] at strange
      cases strange
  | duplicate here known =>
    cases again with
    | notALetter here' strange =>
      rw [Option.some.inj (here.symm.trans here'), strange] at known
      cases known
    | duplicate here' => rw [Option.some.inj (here.symm.trans here')]

theorem FirstFault.unique (first : FirstFault letters fault) (again : FirstFault letters other) :
    fault = other := by
  obtain ⟨index, faulty, clean⟩ := first
  obtain ⟨index', faulty', clean'⟩ := again
  rcases Nat.lt_trichotomy index index' with less | rfl | more
  · exact absurd faulty (clean' index less fault)
  · exact faulty.unique faulty'
  · exact absurd faulty' (clean index' more other)

/-- Behind letters that were looked through already, the letter right there has the fault that the look
at it finds. -/
theorem faultAt_append_cons_iff (front rest : List Char) (letter : Char) (fault : AlphabetError) :
    FaultAt (front ++ letter :: rest) front.length fault ↔
      isAlphabetic letter = false ∧ fault = .notALetter letter ∨
        isAlphabetic letter = true ∧ fold letter ∈ front.map fold ∧ fault = .duplicate letter := by
  have here : (front ++ letter :: rest)[front.length]? = some letter := by simp
  constructor
  · rintro (⟨found, strange⟩ | ⟨found, known, earlier, member, same⟩)
    · obtain rfl := Option.some.inj (here.symm.trans found)
      exact .inl ⟨strange, rfl⟩
    · obtain rfl := Option.some.inj (here.symm.trans found)
      rw [List.take_left] at member
      exact .inr ⟨known, List.mem_map.mpr ⟨earlier, member, same⟩, rfl⟩
  · rintro (⟨strange, rfl⟩ | ⟨known, repeated, rfl⟩)
    · exact .notALetter here strange
    · obtain ⟨earlier, member, same⟩ := List.mem_map.mp repeated
      exact .duplicate here known ⟨earlier, by rwa [List.take_left], same⟩

/-- What is found behind letters is the first fault from there on. -/
theorem exists_faultAt_of_firstFault? (front : List Char)
    (found : firstFault? (front.map fold).reverse letters = some fault) :
    ∃ index, FaultAt (front ++ letters) index fault ∧
      ∀ earlier, front.length ≤ earlier → earlier < index →
        ∀ other, ¬ FaultAt (front ++ letters) earlier other := by
  induction letters generalizing front with
  | nil => cases found
  | cons letter rest ih =>
    have here := faultAt_append_cons_iff front rest letter
    simp only [firstFault?, List.mem_reverse] at found
    split_ifs at found with strange repeated
    · obtain rfl := Option.some.inj found
      exact ⟨front.length, (here _).mpr (.inl ⟨strange, rfl⟩), fun earlier => by omega⟩
    · obtain rfl := Option.some.inj found
      exact ⟨front.length, (here _).mpr (.inr ⟨by simpa using strange, repeated, rfl⟩),
        fun earlier => by omega⟩
    · -- the letter is clean, so the first fault is one behind it
      have behind : fold letter :: (front.map fold).reverse =
          ((front ++ [letter]).map fold).reverse := by simp
      rw [behind] at found
      obtain ⟨index, faulty, clean⟩ := ih _ found
      rw [List.append_assoc, List.singleton_append] at faulty clean
      refine ⟨index, faulty, fun earlier low high other => ?_⟩
      rcases Nat.eq_or_lt_of_le low with rfl | later
      · rw [here]
        simp [strange, repeated]
      · exact clean earlier (by rwa [List.length_append, List.length_singleton]) high other

/-- Letters have no fault exactly if all of them are alphabetic and no two have one fold. -/
theorem faultless_iff :
    (∀ index fault, ¬ FaultAt letters index fault) ↔
      (∀ letter ∈ letters, isAlphabetic letter = true) ∧ (letters.map fold).Nodup := by
  constructor
  · intro clean
    cases found : firstFault? [] letters with
    | none => exact ⟨(firstFault?_eq_none found).1, (firstFault?_eq_none found).2.1⟩
    | some fault =>
      obtain ⟨index, faulty, -⟩ := exists_faultAt_of_firstFault? [] found
      exact absurd faulty (clean index fault)
  · rintro ⟨alphabetic, distinct⟩ index fault (⟨here, strange⟩ | ⟨here, -, earlier, member, same⟩)
    · rw [alphabetic _ (List.mem_of_getElem? here)] at strange
      cases strange
    · rw [← List.take_append_drop index letters, List.map_append] at distinct
      have later := List.mem_of_getElem? (l := letters.drop index) (i := 0) (by simpa using here)
      exact List.disjoint_of_nodup_append distinct (List.mem_map_of_mem member)
        (same ▸ List.mem_map_of_mem later)

theorem firstFault?_eq_some_iff : firstFault? [] letters = some fault ↔ FirstFault letters fault := by
  have first {fault : AlphabetError} (found : firstFault? [] letters = some fault) :
      FirstFault letters fault := by
    obtain ⟨index, faulty, clean⟩ := exists_faultAt_of_firstFault? [] found
    exact ⟨index, faulty, fun earlier => clean earlier (Nat.zero_le _)⟩
  refine ⟨first, fun wanted => ?_⟩
  cases found : firstFault? [] letters with
  | none =>
    have clean := (firstFault?_eq_none found)
    obtain ⟨index, faulty, -⟩ := wanted
    exact absurd faulty (faultless_iff.mpr ⟨clean.1, clean.2.1⟩ index fault)
  | some other => rw [(first found).unique wanted]

/-! ## Alphabets and places -/

theorem ofLetters_eq_ok_iff : ofLetters letters = .ok alphabet ↔ alphabet.letters = letters := by
  constructor
  · intro made
    unfold ofLetters at made
    split at made
    · cases made
    · split at made
      · cases made
      · rw [← Except.ok.inj made]
  · rintro rfl
    have long := Nat.not_lt.mpr alphabet.two_le_length
    unfold ofLetters
    rw [dif_neg long]
    split
    · rename_i fault found
      obtain ⟨index, faulty, -⟩ := firstFault?_eq_some_iff.mp found
      exact absurd faulty (faultless_iff.mpr ⟨alphabet.alphabetic, alphabet.folds_nodup⟩ index fault)
    · rfl

theorem exists_ofLetters_eq_ok_iff : (∃ alphabet, ofLetters letters = .ok alphabet) ↔
    2 ≤ letters.length ∧ (∀ letter ∈ letters, isAlphabetic letter = true) ∧
      (letters.map fold).Nodup := by
  constructor
  · rintro ⟨alphabet, made⟩
    obtain rfl := ofLetters_eq_ok_iff.mp made
    exact ⟨alphabet.two_le_length, alphabet.alphabetic, alphabet.folds_nodup⟩
  · rintro ⟨long, alphabetic, distinct⟩
    exact ⟨⟨letters, long, alphabetic, distinct⟩, ofLetters_eq_ok_iff.mpr rfl⟩

theorem ofLetters_eq_error_iff : ofLetters letters = .error fault ↔
    letters.length < 2 ∧ fault = .tooShort letters.length ∨
      2 ≤ letters.length ∧ FirstFault letters fault := by
  rw [← firstFault?_eq_some_iff, ofLetters]
  by_cases short : letters.length < 2
  · rw [dif_pos short]
    simp [short, Nat.not_le_of_lt short, eq_comm]
  · rw [dif_neg short]
    simp only [short, false_and, false_or, Nat.le_of_not_lt short, true_and]
    split
    · rename_i first found
      simp [found]
    · rename_i clean
      simp [clean]

/-- A character has the place of the letter with its fold. -/
theorem place?_eq_some_iff_getElem? :
    alphabet.place? c = some place ↔ alphabet.letters[place]?.map fold = some (fold c) := by
  constructor
  · intro found
    obtain ⟨inside, same, -⟩ := List.findIdx?_eq_some_iff_getElem.mp found
    rw [List.getElem?_eq_getElem inside, Option.map_some, beq_iff_eq.mp same]
  · intro listed
    obtain ⟨letter, here, same⟩ := Option.map_eq_some_iff.mp listed
    have own := place?_letter here
    rw [place?, same] at own
    exact own

/-- Letters make an alphabet exactly if there are two or more, all of them alphabetic and no two with one
fold; otherwise the answer is that they are too few, or the first fault of a letter. In the alphabet a
character has the place of the one letter with its fold, every letter has its own place, and the letters
that are printed make the same alphabet again. -/
theorem ofLetters_first_fault (letters : List Char) :
    ((∃ alphabet, ofLetters letters = .ok alphabet) ↔
        2 ≤ letters.length ∧ (∀ letter ∈ letters, isAlphabetic letter = true) ∧
          (letters.map fold).Nodup) ∧
      (∀ fault, ofLetters letters = .error fault ↔
        letters.length < 2 ∧ fault = .tooShort letters.length ∨
          2 ≤ letters.length ∧ FirstFault letters fault) ∧
      ∀ alphabet, ofLetters letters = .ok alphabet →
        alphabet.letters = letters ∧ ofLetters alphabet.render = .ok alphabet ∧
          (∀ c place, alphabet.place? c = some place ↔
            letters[place]?.map fold = some (fold c)) ∧
          (∀ (c : Char) (first second : Nat), letters[first]?.map fold = some (fold c) →
            letters[second]?.map fold = some (fold c) → first = second) ∧
          ∀ place letter, letters[place]? = some letter → alphabet.place? letter = some place := by
  refine ⟨exists_ofLetters_eq_ok_iff, fun fault => ofLetters_eq_error_iff, fun alphabet made => ?_⟩
  obtain rfl := ofLetters_eq_ok_iff.mp made
  refine ⟨rfl, made, fun c place => place?_eq_some_iff_getElem?, ?_, fun place letter => place?_letter⟩
  intro c first second here here'
  rw [← place?_eq_some_iff_getElem?] at here here'
  exact Option.some.inj (here.symm.trans here')

/-- A titlecase letter and a capital one have the places of small letters, but the small sigma that ends a
word is another letter. A digit comes in front of a repeated letter as a fault. -/
theorem ofLetters_first_fault_titlecase :
    ∃ alphabet, ofLetters ['ǅ', 'Σ', 'a'] = .ok alphabet ∧ alphabet.place? 'ǆ' = some 0 ∧
      alphabet.place? 'σ' = some 1 ∧ alphabet.place? 'ς' = none ∧
      ofLetters alphabet.render = .ok alphabet ∧
      ofLetters ['a', '1', 'A'] = .error (.notALetter '1') := by
  obtain ⟨alphabet, made⟩ := (ofLetters_first_fault ['ǅ', 'Σ', 'a']).1.mpr
    ⟨by decide, List.all_eq_true.mp (by decide), by decide⟩
  obtain ⟨-, again, places, -, -⟩ := (ofLetters_first_fault _).2.2 alphabet made
  refine ⟨alphabet, made, (places _ 0).mpr (by decide), (places _ 1).mpr (by decide), ?_, again, ?_⟩
  · refine Option.eq_none_iff_forall_not_mem.mpr fun place found => ?_
    obtain ⟨letter, here, same⟩ := Option.map_eq_some_iff.mp ((places _ place).mp found)
    have absent : fold 'ς' ∉ ['ǅ', 'Σ', 'a'].map fold := by decide
    exact absent (same ▸ List.mem_map_of_mem (List.mem_of_getElem? here))
  · refine ((ofLetters_first_fault _).2.1 _).mpr (.inr ⟨by decide, 1, .notALetter rfl (by decide), ?_⟩)
    intro earlier first other faulty
    obtain rfl : earlier = 0 := by omega
    rcases (faultAt_append_cons_iff [] ['1', 'A'] 'a' _).mp faulty with ⟨strange, -⟩ | ⟨-, repeated, -⟩
    · exact absurd strange (by decide)
    · cases repeated

end Numbering.Alphabet
