import Mathlib.Data.Set.Function
import Mathlib.InformationTheory.Coding.UniquelyDecodable
import Numbering.Proofs.Text.Casing
import Numbering.Proofs.Traversal

/-! # Texts that stay apart

Padding and case can make one text of two. Texts without the fill stay apart under padding. Words
over some letters stay apart in uppercase exactly if the uppercases of the letters are a uniquely
decodable code (`toUppercase_injOn_iff`). In lowercase, letters with different folds stay apart but
for the final sigma, which the capital one can become (`toLowercase_injOn_iff`).
-/

namespace Numbering.Text

open Character InformationTheory

variable {letters text other before : Text} {width : Nat} {fill : Char}

def words (letters : Text) : Set Text :=
  {word | ∀ letter ∈ word, letter ∈ letters}

/-! ## Padding -/

theorem dropWhile_padLeft (bare : fill ∉ text) :
    (padLeft width fill text).dropWhile (· == fill) = text := by
  rw [padLeft, List.dropWhile_append_of_pos (by simp)]
  cases text with
  | nil => rfl
  | cons first rest =>
    have different : first ≠ fill := fun same => bare (same ▸ List.mem_cons_self)
    rw [List.dropWhile_cons_of_neg (by simpa using different)]

/-- Padding keeps texts apart that do not have the fill. -/
theorem padLeft_inj (bare : fill ∉ text) (bare' : fill ∉ other) :
    padLeft width fill text = padLeft width fill other ↔ text = other := by
  constructor
  · intro same
    calc text = (padLeft width fill text).dropWhile (· == fill) := (dropWhile_padLeft bare).symm
      _ = (padLeft width fill other).dropWhile (· == fill) := by rw [same]
      _ = other := dropWhile_padLeft bare'
  · rintro rfl
    rfl

theorem blank_mem_toUppercase (blank : ' ' ∈ toUppercase text) : ' ' ∈ text := by
  obtain ⟨letter, member, inside⟩ := List.mem_flatMap.mp blank
  rwa [← eq_of_blank_mem_uppercase inside]

theorem eq_of_blank_mem_lowercaseAt {letter : Char} {rest : Text}
    (blank : ' ' ∈ lowercaseAt before letter rest) : letter = ' ' := by
  rw [lowercaseAt] at blank
  split_ifs at blank
  · rw [sigma] at blank
    split_ifs at blank <;> exact absurd blank (by decide)
  · exact eq_of_blank_mem_lowercase blank

theorem blank_mem_lowercaseAfter (blank : ' ' ∈ lowercaseAfter before text) : ' ' ∈ text := by
  induction text generalizing before with
  | nil => exact blank
  | cons letter rest ih =>
    rw [lowercaseAfter_cons, List.mem_append] at blank
    rcases blank with here | later
    · rw [eq_of_blank_mem_lowercaseAt here]
      exact List.mem_cons_self
    · exact List.mem_cons_of_mem _ (ih later)

/-! ## Uppercase -/

theorem map_injOn {α : Type} {code : Char → α} (distinct : Set.InjOn code {letter | letter ∈ letters}) :
    Set.InjOn (List.map code) (words letters) := by
  intro word own other own' same
  induction word generalizing other with
  | nil => exact (List.map_eq_nil_iff.mp same.symm).symm
  | cons letter rest ih =>
    cases other with
    | nil => cases same
    | cons letter' rest' =>
      obtain ⟨here, later⟩ := List.cons.inj same
      obtain ⟨inside, own⟩ := List.forall_mem_cons.mp own
      obtain ⟨inside', own'⟩ := List.forall_mem_cons.mp own'
      rw [distinct inside inside' here, ih own own' later]

/-- Words over letters stay apart in a code exactly if no two letters have one code and the codes
are uniquely decodable. -/
theorem flatMap_injOn_iff (code : Char → Text) (letters : Text) :
    Set.InjOn (List.flatMap code) (words letters) ↔
      Set.InjOn code {letter | letter ∈ letters} ∧
        UniquelyDecodable (code '' {letter | letter ∈ letters}) := by
  constructor
  · intro apart
    refine ⟨fun letter inside letter' inside' same => ?_, fun codes codes' coded coded' same => ?_⟩
    · have singles : [letter] = [letter'] :=
        apart (List.forall_mem_singleton.mpr inside) (List.forall_mem_singleton.mpr inside')
          (by simpa using same)
      exact List.singleton_inj.mp singles
    · obtain ⟨word, own, rfl⟩ := exists_map_eq_of_forall coded
      obtain ⟨word', own', rfl⟩ := exists_map_eq_of_forall coded'
      rw [← List.flatMap_def, ← List.flatMap_def] at same
      rw [apart own own' same]
  · rintro ⟨distinct, decodable⟩ word own word' own' same
    have coded {word : Text} (own : word ∈ words letters) :
        ∀ piece ∈ word.map code, piece ∈ code '' {letter | letter ∈ letters} :=
      List.forall_mem_map.mpr fun letter member => ⟨letter, own letter member, rfl⟩
    refine map_injOn distinct own own' (decodable _ _ (coded own) (coded own') ?_)
    rwa [← List.flatMap_def, ← List.flatMap_def]

/-- Letters whose words stay apart in uppercase: no two have one uppercase, and the uppercases are
uniquely decodable. -/
def UppercaseApart (letters : Text) : Prop :=
  Set.InjOn uppercase {letter | letter ∈ letters} ∧
    UniquelyDecodable (uppercase '' {letter | letter ∈ letters})

theorem toUppercase_injOn_iff :
    Set.InjOn toUppercase (words letters) ↔ UppercaseApart letters :=
  flatMap_injOn_iff uppercase letters

/-! ## Lowercase -/

theorem head?_lowercaseAt (before : Text) (letter : Char) (rest : Text) :
    (lowercaseAt before letter rest).head? =
      some (if letter = 'Σ' then sigma before rest else fold letter) := by
  rw [lowercaseAt]
  split_ifs
  · rfl
  · rw [fold]
    cases mapped : lowercase letter with
    | nil => exact absurd mapped (lowercase_ne_nil letter)
    | cons first more => rfl

theorem length_lowercaseAt (before : Text) (letter : Char) (rest rest' : Text) :
    (lowercaseAt before letter rest).length = (lowercaseAt before letter rest').length := by
  rw [lowercaseAt, lowercaseAt]
  split_ifs <;> rfl

/-- The first character of the lowercase of a letter is its fold, or the final sigma. -/
theorem head?_lowercaseAt_eq (before : Text) (letter : Char) (rest : Text) :
    (lowercaseAt before letter rest).head? = some (fold letter) ∨
      letter = 'Σ' ∧ (lowercaseAt before letter rest).head? = some 'ς' := by
  rw [head?_lowercaseAt]
  split_ifs with capital
  · rw [capital, sigma]
    split_ifs
    · exact .inr ⟨rfl, rfl⟩
    · exact .inl (by decide)
  · exact .inl rfl

/-- Letters are told apart by the first characters of their lowercases. -/
theorem eq_of_head?_lowercaseAt {letter letter' : Char} {rest rest' : Text}
    (distinct : Set.InjOn fold {letter | letter ∈ letters})
    (sigmas : ¬ ('ς' ∈ letters ∧ 'Σ' ∈ letters)) (inside : letter ∈ letters)
    (inside' : letter' ∈ letters)
    (same : (lowercaseAt before letter rest).head? = (lowercaseAt before letter' rest').head?) :
    letter = letter' := by
  rcases head?_lowercaseAt_eq before letter rest with first | ⟨rfl, first⟩
  · rcases head?_lowercaseAt_eq before letter' rest' with first' | ⟨rfl, first'⟩
    · rw [first, first'] at same
      exact distinct inside inside' (Option.some.inj same)
    · rw [first, first'] at same
      exact absurd ⟨eq_of_fold_eq_final (Option.some.inj same) ▸ inside, inside'⟩ sigmas
  · rcases head?_lowercaseAt_eq before letter' rest' with first' | ⟨rfl, -⟩
    · rw [first, first'] at same
      exact absurd ⟨eq_of_fold_eq_final (Option.some.inj same).symm ▸ inside', inside⟩ sigmas
    · rfl

theorem lowercaseAfter_injOn (distinct : Set.InjOn fold {letter | letter ∈ letters})
    (sigmas : ¬ ('ς' ∈ letters ∧ 'Σ' ∈ letters)) (before : Text) :
    Set.InjOn (lowercaseAfter before) (words letters) := by
  intro word own other own' same
  induction word generalizing before other with
  | nil =>
    have shorter := length_le_lowercaseAfter before other
    rw [← same] at shorter
    exact (List.length_eq_zero_iff.mp (Nat.le_zero.mp shorter)).symm
  | cons letter rest ih =>
    cases other with
    | nil =>
      have shorter := length_le_lowercaseAfter before (letter :: rest)
      rw [same] at shorter
      exact absurd shorter (Nat.not_succ_le_zero _)
    | cons letter' rest' =>
      obtain ⟨inside, ownRest⟩ := List.forall_mem_cons.mp own
      obtain ⟨inside', ownRest'⟩ := List.forall_mem_cons.mp own'
      rw [lowercaseAfter_cons, lowercaseAfter_cons] at same
      have heads := congrArg List.head? same
      rw [List.head?_append_of_ne_nil _ (lowercaseAt_ne_nil _ _ _),
        List.head?_append_of_ne_nil _ (lowercaseAt_ne_nil _ _ _)] at heads
      obtain rfl := eq_of_head?_lowercaseAt distinct sigmas inside inside' heads
      obtain ⟨-, later⟩ := List.append_inj same (length_lowercaseAt before letter rest rest')
      rw [ih (letter :: before) ownRest ownRest' later]

/-- Words over letters with different folds stay apart in lowercase unless the final sigma is a letter
beside the capital one. -/
theorem toLowercase_injOn_iff (distinct : Set.InjOn fold {letter | letter ∈ letters}) :
    Set.InjOn toLowercase (words letters) ↔ ¬ ('ς' ∈ letters ∧ 'Σ' ∈ letters) := by
  constructor
  · rintro apart ⟨final, capital⟩
    have own : ['ς', 'Σ'] ∈ words letters := by simp [words, final, capital]
    have own' : ['ς', 'ς'] ∈ words letters := by simp [words, final]
    exact absurd (apart own own' (by decide +kernel)) (by decide)
  · exact fun sigmas => lowercaseAfter_injOn distinct sigmas []

end Numbering.Text
