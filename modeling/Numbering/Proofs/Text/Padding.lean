import Numbering.Proofs.Numeral.Radix
import Numbering.Proofs.Text.Bytes

/-! # Padded texts

A padded text is known by its parts: the leading sign of the text, then fill, then the rest of the text,
the last two together as long as the width or as the rest, whichever is more (`padSigned_eq_iff`). The
sign is looked for in whatever text is given, a padded one included. Padding a padded text again still
comes to padding once to the larger width, unless the first padding made a sign of the fill and the
second is as wide (`padSigned_padSigned_eq_iff`); fill that is no sign never becomes one. A sign is one
byte long and no other character begins with that byte, so a text that is kept in bytes can be cut
behind it (`Bytes.padSigned?_eq`).
-/

namespace Numbering.Text

open Numeral (Unsigned)

variable {text sign rest filled padded again : Text} {width next : Nat} {fill : Char}

/-! ## Fill in front of a text -/

/-- Fill and then a text, together as long as the width or as the text, whichever is more. -/
structure FilledUp (width : Nat) (fill : Char) (text filled : Text) : Prop where
  parts : ∃ front, filled = front ++ text ∧ ∀ c ∈ front, c = fill
  length : filled.length = max width text.length

theorem padLeft_eq_iff : padLeft width fill text = filled ↔ FilledUp width fill text filled := by
  constructor
  · rintro rfl
    exact ⟨⟨_, rfl, fun _ => List.eq_of_mem_replicate⟩, length_padLeft width fill text⟩
  · rintro ⟨⟨front, rfl, alike⟩, length⟩
    rw [List.length_append] at length
    have count : front.length = width - text.length := by omega
    rw [padLeft, ← count, ← List.eq_replicate_of_mem alike]

theorem FilledUp.eq_self (filling : FilledUp width fill text filled) (wide : width ≤ text.length) :
    filled = text := by
  obtain ⟨⟨front, rfl, -⟩, length⟩ := filling
  rw [List.length_append] at length
  have empty : front = [] := List.length_eq_zero_iff.mp (by omega)
  rw [empty, List.nil_append]

/-- What is filled up to one width and then to another is filled up to the larger. -/
theorem FilledUp.trans (filling : FilledUp width fill text filled)
    (filling' : FilledUp next fill filled again) : FilledUp (max width next) fill text again := by
  obtain ⟨⟨front, rfl, alike⟩, length⟩ := filling
  obtain ⟨⟨more, rfl, alike'⟩, length'⟩ := filling'
  refine ⟨⟨more ++ front, (List.append_assoc ..).symm, fun c member => ?_⟩, ?_⟩
  · exact (List.mem_append.mp member).elim (alike' c) (alike c)
  · rw [length', length]
    omega

theorem padLeft_padLeft (width next : Nat) (fill : Char) (text : Text) :
    padLeft next fill (padLeft width fill text) = padLeft (max width next) fill text := by
  have once : FilledUp width fill text (padLeft width fill text) := padLeft_eq_iff.mp rfl
  exact (padLeft_eq_iff.mpr (once.trans (padLeft_eq_iff.mp rfl))).symm

theorem padLeft_succ (short : text.length ≤ width) :
    padLeft (width + 1) fill text = fill :: padLeft width fill text := by
  rw [padLeft, Nat.succ_sub short, List.replicate_succ, List.cons_append, padLeft]

/-! ## Signs -/

/-- A text in two parts, its leading sign and the rest. A text that does not begin with a sign has an
empty one. -/
inductive Signed : Text → Text → Text → Prop
  | plus (rest : Text) : Signed ('+' :: rest) ['+'] rest
  | minus (rest : Text) : Signed ('-' :: rest) ['-'] rest
  | bare {text : Text} (unsigned : Unsigned text) : Signed text [] text

theorem splitSign_eq_iff : splitSign text = (sign, rest) ↔ Signed text sign rest := by
  constructor
  · intro split
    unfold splitSign at split
    split at split
    · obtain ⟨rfl, rfl⟩ := Prod.mk.inj split
      exact .plus _
    · obtain ⟨rfl, rfl⟩ := Prod.mk.inj split
      exact .minus _
    · rename_i plus minus
      obtain ⟨rfl, rfl⟩ := Prod.mk.inj split
      refine .bare fun c first => ?_
      obtain ⟨tail, rfl⟩ := List.head?_eq_some_iff.mp first
      exact ⟨fun same => plus tail (same ▸ rfl), fun same => minus tail (same ▸ rfl)⟩
  · intro signed
    cases signed with
    | plus => rfl
    | minus => rfl
    | bare unsigned =>
      unfold splitSign
      split
      · exact absurd rfl (unsigned '+' rfl).1
      · exact absurd rfl (unsigned '-' rfl).2
      · rfl

theorem signed_splitSign (text : Text) : Signed text (splitSign text).1 (splitSign text).2 :=
  splitSign_eq_iff.mp rfl

theorem Signed.padSigned_eq (signed : Signed text sign rest) (width : Nat) (fill : Char) :
    padSigned width fill text = sign ++ padLeft width fill rest := by
  rw [padSigned, splitSign_eq_iff.mpr signed]

/-- A sign is split off once: what follows it does not begin with another. -/
theorem padSigned_append (signed : sign = [] ∨ sign = ['+'] ∨ sign = ['-'])
    (unsigned : Unsigned text) (width : Nat) (fill : Char) :
    padSigned width fill (sign ++ text) = sign ++ padLeft width fill text := by
  apply Signed.padSigned_eq
  rcases signed with rfl | rfl | rfl
  · exact .bare unsigned
  · exact .plus text
  · exact .minus text

theorem length_padSigned (width : Nat) (fill : Char) (text : Text) :
    (padSigned width fill text).length =
      (splitSign text).1.length + max width (splitSign text).2.length := by
  rw [padSigned, List.length_append, length_padLeft]

theorem length_splitSign_le (text : Text) : (splitSign text).1.length ≤ 1 := by
  unfold splitSign
  split <;> simp

/-! ## Fill behind a sign -/

/-- The leading sign of a text and then the rest of it filled up, which counts alone towards the
width. -/
def Padded (width : Nat) (fill : Char) (text padded : Text) : Prop :=
  ∃ sign rest filled, Signed text sign rest ∧ padded = sign ++ filled ∧
    FilledUp width fill rest filled

theorem padSigned_eq_iff : padSigned width fill text = padded ↔ Padded width fill text padded := by
  constructor
  · rintro rfl
    exact ⟨_, _, _, signed_splitSign text, rfl, padLeft_eq_iff.mp rfl⟩
  · rintro ⟨sign, rest, filled, signed, rfl, filling⟩
    rw [signed.padSigned_eq, padLeft_eq_iff.mpr filling]

/-- Padding that makes fill the sign of a text which has none. -/
structure SignsAnew (width : Nat) (fill : Char) (text : Text) : Prop where
  sign : fill = '+' ∨ fill = '-'
  unsigned : Unsigned text
  short : text.length < width

theorem FilledUp.unsigned (filling : FilledUp width fill text filled) (unsigned : Unsigned text)
    (steady : ¬ SignsAnew width fill text) : Unsigned filled := by
  rcases Nat.lt_or_ge text.length width with short | wide
  · obtain ⟨⟨front, rfl, alike⟩, -⟩ := filling
    cases front with
    | nil => exact unsigned
    | cons first more =>
      rintro c same
      obtain rfl := Option.some.inj same
      have plain : ¬ (first = '+' ∨ first = '-') :=
        fun sign => steady ⟨alike first List.mem_cons_self ▸ sign, unsigned, short⟩
      exact not_or.mp plain
  · rw [filling.eq_self wide]
    exact unsigned

/-- The sign of a text is the sign of the padded text, unless there was none and the fill is one. -/
theorem FilledUp.signed (filling : FilledUp width fill rest filled) (signed : Signed text sign rest)
    (steady : ¬ SignsAnew width fill text) : Signed (sign ++ filled) sign filled := by
  cases signed with
  | plus => exact .plus filled
  | minus => exact .minus filled
  | bare unsigned => exact .bare (filling.unsigned unsigned steady)

theorem Padded.trans (padding : Padded width fill text padded)
    (padding' : Padded next fill padded again) (steady : ¬ SignsAnew width fill text) :
    Padded (max width next) fill text again := by
  obtain ⟨sign, rest, filled, signed, rfl, filling⟩ := padding
  obtain ⟨sign', filled', refilled, signed', rfl, filling'⟩ := padding'
  have same := (splitSign_eq_iff.mpr (filling.signed signed steady)).symm.trans
    (splitSign_eq_iff.mpr signed')
  obtain ⟨rfl, rfl⟩ := Prod.mk.inj same
  exact ⟨sign, rest, refilled, signed, rfl, filling.trans filling'⟩

theorem padSigned_padSigned (steady : ¬ SignsAnew width fill text) (next : Nat) :
    padSigned next fill (padSigned width fill text) = padSigned (max width next) fill text := by
  have once : Padded width fill text (padSigned width fill text) := padSigned_eq_iff.mp rfl
  exact (padSigned_eq_iff.mpr (once.trans (padSigned_eq_iff.mp rfl) steady)).symm

/-- Where fill becomes the sign, padding again fills up behind it. -/
theorem SignsAnew.padSigned_padSigned (anew : SignsAnew (width + 1) fill text) (next : Nat) :
    padSigned next fill (padSigned (width + 1) fill text) =
      fill :: padLeft (max width next) fill text := by
  obtain ⟨sign, unsigned, short⟩ := anew
  have once : padSigned (width + 1) fill text = fill :: padLeft width fill text := by
    rw [(Signed.bare unsigned).padSigned_eq, List.nil_append, padLeft_succ (Nat.le_of_lt_succ short)]
  have signed : Signed (fill :: padLeft width fill text) [fill] (padLeft width fill text) := by
    rcases sign with rfl | rfl
    · exact .plus _
    · exact .minus _
  rw [once, signed.padSigned_eq, padLeft_padLeft, List.singleton_append]

/-- Padding twice comes to padding once to the larger width, unless the first padding makes fill the
sign of a text which has none and the second is as wide. -/
theorem padSigned_padSigned_eq_iff (width next : Nat) (fill : Char) (text : Text) :
    padSigned next fill (padSigned width fill text) = padSigned (max width next) fill text ↔
      ¬ (SignsAnew width fill text ∧ width ≤ next) := by
  by_cases anew : SignsAnew width fill text
  · have unsigned := anew.unsigned
    have short := anew.short
    obtain ⟨less, rfl⟩ := Nat.exists_eq_succ_of_ne_zero (Nat.ne_zero_of_lt short)
    have whole : padSigned (max (less + 1) next) fill text =
        padLeft (max (less + 1) next) fill text := by
      rw [(Signed.bare unsigned).padSigned_eq, List.nil_append]
    rw [anew.padSigned_padSigned, whole]
    rcases Nat.lt_or_ge next (less + 1) with narrow | wide
    · rw [Nat.max_eq_left (Nat.le_of_lt_succ narrow), Nat.max_eq_left (Nat.le_of_lt narrow),
        padLeft_succ (Nat.le_of_lt_succ short)]
      exact iff_of_true rfl fun both => Nat.not_le.mpr narrow both.2
    · -- the character of fill that is taken for the sign does not count towards the second width
      refine iff_of_false (fun same => ?_) fun steady => steady ⟨anew, wide⟩
      have length := congrArg List.length same
      rw [List.length_cons, length_padLeft, length_padLeft] at length
      omega
  · exact iff_of_true (padSigned_padSigned anew next) fun both => anew both.1

/-- A dash in front of a letter is taken for its sign. -/
example : padSigned 2 '-' (padSigned 2 '-' ['a']) = ['-', '-', 'a'] ∧
    padSigned 2 '-' ['a'] = ['-', 'a'] := by
  decide

/-! ## Texts in bytes -/

namespace Bytes

/-- The sign and the rest of a text, where a sign is known by the first byte and is cut off as one. -/
def splitSign? (text : Text) : Option (Text × Text) :=
  if (encode text).head? = some '+'.toUInt8 ∨ (encode text).head? = some '-'.toUInt8 then cut? 1 text
  else some ([], text)

/-- Padding by bytes, which gives nothing where a character would be cut. -/
def padSigned? (width : Nat) (fill : Char) (text : Text) : Option Text := do
  let (sign, rest) ← splitSign? text
  return sign ++ padLeft width fill rest

/-- No text is cut inside its first character. -/
theorem splitSign?_eq (text : Text) : splitSign? text = some (splitSign text) := by
  have plus : '+'.toNat < 128 := by decide
  have minus : '-'.toNat < 128 := by decide
  simp only [splitSign?, head?_encode_eq_iff plus, head?_encode_eq_iff minus]
  obtain ⟨sign, rest, split⟩ : ∃ sign rest, splitSign text = (sign, rest) := ⟨_, _, rfl⟩
  rw [split]
  cases splitSign_eq_iff.mp split with
  | plus =>
    rw [if_pos (.inl rfl), cut?_eq_some_iff]
    exact ⟨rfl, rfl⟩
  | minus =>
    rw [if_pos (.inr rfl), cut?_eq_some_iff]
    exact ⟨rfl, rfl⟩
  | bare unsigned =>
    have other : ¬ (text.head? = some '+' ∨ text.head? = some '-') :=
      fun first => first.elim (fun plus => (unsigned _ plus).1 rfl) fun minus => (unsigned _ minus).2 rfl
    rw [if_neg other]

theorem padSigned?_eq (width : Nat) (fill : Char) (text : Text) :
    padSigned? width fill text = some (padSigned width fill text) := by
  rw [padSigned?, splitSign?_eq]
  rfl

end Bytes

/-! ## Padding again -/

/-- With fill that is no sign, padding a padded text again comes to padding once to the larger width. A
padded text is the sign of the text, fill, and the rest of the text, as long behind the sign as the width
or the rest, and padding by bytes gives it without ever cutting a character. Where no character is taken
for a sign, a padded text is fill and the text, and padding twice comes to padding once with every
fill. -/
theorem padSigned_again (text : Text) (width : Nat) (fill : Char) :
    (fill ≠ '+' → fill ≠ '-' → ∀ next,
        padSigned next fill (padSigned width fill text) = padSigned (max width next) fill text) ∧
      (∀ padded, padSigned width fill text = padded ↔ Padded width fill text padded) ∧
      Bytes.padSigned? width fill text = some (padSigned width fill text) ∧
      (∀ next, padLeft next fill (padLeft width fill text) = padLeft (max width next) fill text) ∧
      ∀ filled, padLeft width fill text = filled ↔ FilledUp width fill text filled := by
  refine ⟨fun plus minus next => ?_, fun padded => padSigned_eq_iff,
    Bytes.padSigned?_eq width fill text, fun next => padLeft_padLeft width next fill text,
    fun filled => padLeft_eq_iff⟩
  rw [padSigned_padSigned_eq_iff]
  rintro ⟨anew, -⟩
  exact anew.sign.elim plus minus

/-- Of two dashes in front of a letter the first alone is a sign. -/
theorem padSigned_again_dashes :
    padSigned 4 '·' ['-', '-', 'α'] = ['-', '·', '·', '-', 'α'] ∧
      padSigned 3 '·' ['-', '·', '·', '-', 'α'] = ['-', '·', '·', '-', 'α'] ∧
      padSigned 5 '·' ['-', '·', '·', '-', 'α'] = ['-', '·', '·', '·', '-', 'α'] := by
  have once : padSigned 4 '·' ['-', '-', 'α'] = ['-', '·', '·', '-', 'α'] := by decide
  obtain ⟨again, -⟩ := padSigned_again ['-', '-', 'α'] 4 '·'
  rw [once] at again
  exact ⟨once, (again (by decide) (by decide) 3).trans once,
    (again (by decide) (by decide) 5).trans (by decide)⟩

end Numbering.Text
