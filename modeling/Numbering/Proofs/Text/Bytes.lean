import Mathlib.Data.List.Basic
import Numbering.Text

/-! # Offsets in bytes

A text kept as UTF-8 is cut at offsets that count bytes. A cut inside a character or behind the end
is none, and a slice needs two cuts in order. `cut?_eq_some_iff` says that the cuts are the bounds
between characters, and `slice?_byteOffset` that slicing at the bytes of two places between
characters gives the characters between them. The first byte of a text tells whether an ASCII
character begins it (`head?_encode_eq_iff`).
-/

namespace Numbering.Text

def byteLength (text : Text) : Nat :=
  text.foldr (fun c bytes => c.utf8Size + bytes) 0

def encode (text : Text) : List UInt8 :=
  text.flatMap String.utf8EncodeChar

/-- The bytes in front of a place that is counted in characters. -/
def byteOffset (text : Text) (place : Nat) : Nat :=
  byteLength (text.take place)

/-- The two sides of a cut at an offset in bytes, which may not lie inside a character. -/
def cut? (bytes : Nat) : Text → Option (Text × Text)
  | [] => if bytes = 0 then some ([], []) else none
  | c :: rest =>
    if bytes = 0 then some ([], c :: rest)
    else if c.utf8Size ≤ bytes then
      (cut? (bytes - c.utf8Size) rest).map fun (front, back) => (c :: front, back)
    else none

/-- The text between two offsets in bytes, which have to be in order and between characters. -/
def slice? (text : Text) (start stop : Nat) : Option Text :=
  if start ≤ stop then do
    let (_, back) ← cut? start text
    let (middle, _) ← cut? (stop - start) back
    return middle
  else none

@[simp] theorem byteLength_nil : byteLength [] = 0 := rfl

@[simp] theorem byteLength_cons (c : Char) (text : Text) :
    byteLength (c :: text) = c.utf8Size + byteLength text := rfl

@[simp] theorem byteLength_append (first second : Text) :
    byteLength (first ++ second) = byteLength first + byteLength second := by
  induction first with
  | nil => simp
  | cons c rest ih => rw [List.cons_append, byteLength_cons, byteLength_cons, ih, Nat.add_assoc]

theorem byteLength_eq_zero_iff {text : Text} : byteLength text = 0 ↔ text = [] := by
  cases text with
  | nil => simp
  | cons c rest =>
    have wide := c.utf8Size_pos
    simp only [byteLength_cons, reduceCtorEq, iff_false]
    omega

theorem byteOffset_length (text : Text) : byteOffset text text.length = byteLength text := by
  rw [byteOffset, List.take_length]

/-- A later place has more bytes in front of it. -/
theorem byteOffset_lt {text : Text} {place later : Nat} (lt : place < later)
    (inside : later ≤ text.length) : byteOffset text place < byteOffset text later := by
  have split : text.take later = text.take place ++ (text.drop place).take (later - place) := by
    rw [← List.take_add]
    congr 1
    omega
  rw [byteOffset, byteOffset, split, byteLength_append]
  have filled : byteLength ((text.drop place).take (later - place)) ≠ 0 := by
    rw [Ne, byteLength_eq_zero_iff, List.take_eq_nil_iff, List.drop_eq_nil_iff]
    omega
  omega

theorem byteOffset_lt_iff {text : Text} {place other : Nat} (inside : place ≤ text.length)
    (inside' : other ≤ text.length) :
    byteOffset text place < byteOffset text other ↔ place < other := by
  refine ⟨fun lt => ?_, fun lt => byteOffset_lt lt inside'⟩
  by_contra ge
  rcases Nat.lt_or_eq_of_le (Nat.not_lt.mp ge) with later | rfl
  · exact absurd (byteOffset_lt later inside) (Nat.lt_asymm lt)
  · exact absurd lt (Nat.lt_irrefl _)

theorem byteOffset_le_iff {text : Text} {place other : Nat} (inside : place ≤ text.length)
    (inside' : other ≤ text.length) :
    byteOffset text place ≤ byteOffset text other ↔ place ≤ other := by
  rw [← Nat.not_lt, byteOffset_lt_iff inside' inside, Nat.not_lt]

theorem byteOffset_inj {text : Text} {place other : Nat} (inside : place ≤ text.length)
    (inside' : other ≤ text.length) :
    byteOffset text place = byteOffset text other ↔ place = other := by
  rw [Nat.le_antisymm_iff, byteOffset_le_iff inside inside', byteOffset_le_iff inside' inside,
    Nat.le_antisymm_iff]

/-- A text can be cut at an offset exactly if whole characters make up the bytes before it. -/
theorem cut?_eq_some_iff {bytes : Nat} {text front back : Text} :
    cut? bytes text = some (front, back) ↔ text = front ++ back ∧ bytes = byteLength front := by
  induction text generalizing bytes front with
  | nil =>
    rw [cut?]
    split
    · rename_i zero
      simp only [Option.some.injEq, Prod.mk.injEq, List.nil_eq, List.append_eq_nil_iff]
      constructor
      · rintro ⟨rfl, rfl⟩
        exact ⟨⟨rfl, rfl⟩, zero⟩
      · rintro ⟨⟨rfl, rfl⟩, -⟩
        exact ⟨rfl, rfl⟩
    · rename_i positive
      simp only [reduceCtorEq, List.nil_eq, List.append_eq_nil_iff, false_iff, not_and]
      rintro ⟨rfl, -⟩
      exact positive
  | cons c rest ih =>
    have wide := c.utf8Size_pos
    rw [cut?]
    split
    · rename_i zero
      subst zero
      rw [eq_comm (a := 0), byteLength_eq_zero_iff, Option.some.injEq, Prod.mk.injEq]
      constructor
      · rintro ⟨rfl, rfl⟩
        exact ⟨rfl, rfl⟩
      · rintro ⟨same, rfl⟩
        exact ⟨rfl, by simpa using same⟩
    · split
      · rename_i positive fits
        simp only [Option.map_eq_some_iff, Prod.exists, Prod.mk.injEq]
        constructor
        · rintro ⟨inner, tail, found, rfl, rfl⟩
          obtain ⟨rfl, size⟩ := ih.mp found
          exact ⟨rfl, by rw [byteLength_cons]; omega⟩
        · rintro ⟨same, size⟩
          cases front with
          | nil => exact absurd size positive
          | cons head inner =>
            obtain ⟨rfl, rfl⟩ := List.cons.inj same
            rw [byteLength_cons] at size
            exact ⟨inner, back, ih.mpr ⟨rfl, by omega⟩, rfl, rfl⟩
      · rename_i positive short
        simp only [reduceCtorEq, false_iff, not_and]
        intro same size
        cases front with
        | nil => exact positive size
        | cons head inner =>
          obtain ⟨rfl, -⟩ := List.cons.inj same
          rw [byteLength_cons] at size
          omega

/-- Slicing around a middle part gives that part. -/
theorem slice?_append (front middle back : Text) :
    slice? (front ++ middle ++ back) (byteLength front) (byteLength (front ++ middle)) =
      some middle := by
  have first : cut? (byteLength front) (front ++ middle ++ back) = some (front, middle ++ back) :=
    cut?_eq_some_iff.mpr ⟨List.append_assoc .., rfl⟩
  have second : cut? (byteLength (front ++ middle) - byteLength front) (middle ++ back) =
      some (middle, back) :=
    cut?_eq_some_iff.mpr ⟨rfl, by rw [byteLength_append]; omega⟩
  have ordered : byteLength front ≤ byteLength (front ++ middle) := by
    rw [byteLength_append]
    omega
  simp only [slice?, ordered, ↓reduceIte, first, second, Option.bind_eq_bind, Option.bind_some,
    Option.pure_def]

/-- Slicing at the bytes of two places between characters gives the characters between them. -/
theorem slice?_byteOffset (text : Text) {start stop : Nat} (le : start ≤ stop) :
    slice? text (byteOffset text start) (byteOffset text stop) =
      some (text.extract start stop) := by
  have front : text.take start ++ text.extract start stop = text.take stop := by
    rw [List.extract_eq_take_drop, ← List.take_add]
    congr 1
    omega
  have sliced := slice?_append (text.take start) (text.extract start stop) (text.drop stop)
  rwa [front, List.take_append_drop] at sliced

/-! ## The bytes themselves -/

/-- A character of more than one byte has no ASCII byte in front. -/
theorem head?_utf8EncodeChar_eq_iff {c mark : Char} (ascii : mark.toNat < 128) :
    (String.utf8EncodeChar c).head? = some mark.toUInt8 ↔ c = mark := by
  have code : mark.toUInt8.toNat = mark.toNat := by
    rw [Char.toUInt8, UInt32.toNat_toUInt8]
    exact Nat.mod_eq_of_lt (Nat.lt_trans ascii (by decide))
  have number : c.val.toNat = c.toNat := rfl
  rw [← Char.toNat_inj, String.utf8EncodeChar]
  simp only [number]
  split_ifs <;>
    rw [List.head?_cons, Option.some.injEq, ← UInt8.toNat_inj, code, UInt8.toNat_ofNat'] <;> omega

theorem head?_encode_eq_iff {text : Text} {mark : Char} (ascii : mark.toNat < 128) :
    (encode text).head? = some mark.toUInt8 ↔ text.head? = some mark := by
  cases text with
  | nil => simp [encode]
  | cons c rest =>
    rw [encode, List.flatMap_cons, List.head?_append_of_ne_nil _ String.utf8EncodeChar_ne_nil,
      head?_utf8EncodeChar_eq_iff ascii, List.head?_cons, Option.some.injEq]

end Numbering.Text
