import Mathlib.Data.List.Basic
import Numbering.Text

/-! # Searching with second choices

A pattern is matched from the front of a text by a search that lists all its ways, the preferred one
first: a run takes as many characters as it can before it takes fewer, an optional part is tried
before it is left out, and the first of two patterns before the second. A way is given up for the
next one only if nothing behind it fits, so the first way on the list that fits is the match.
-/

namespace Numbering

/-- The ways to take a value off the front of a text, the preferred one first. -/
def Search (α : Type) : Type :=
  Text → List (α × Text)

namespace Search

instance : Monad Search where
  pure value := fun text => [(value, text)]
  bind first next := fun text => (first text).flatMap fun (value, rest) => next value rest

/-- The cuts behind characters of a class, the longest run first. -/
def cuts (property : Char → Bool) : Text → List (Text × Text)
  | [] => [([], [])]
  | c :: rest =>
    if property c then
      (cuts property rest).map (fun (taken, left) => (c :: taken, left)) ++ [([], c :: rest)]
    else [([], c :: rest)]

/-- Any number of characters of a class, as many as can be. -/
def run (property : Char → Bool) : Search Text :=
  fun text => cuts property text

/-- One or more characters of a class, as many as can be. -/
def filledRun (property : Char → Bool) : Search Text :=
  fun text => (cuts property text).filter fun (taken, _) => !taken.isEmpty

def one (property : Char → Bool) : Search Char
  | [] => []
  | c :: rest => if property c then [(c, rest)] else []

/-- A fixed text that stands for a value. -/
def literal {α : Type} (fixed : Text) (value : α) : Search α :=
  fun text => if fixed.isPrefixOf text then [(value, text.drop fixed.length)] else []

/-- The ways of a search, and behind them those of another. -/
def either {α : Type} (first second : Search α) : Search α :=
  fun text => first text ++ second text

/-- The ways of a search, and behind them the way that leaves it out. -/
def maybe {α : Type} (search : Search α) : Search (Option α) :=
  fun text => (search text).map (fun (value, rest) => (some value, rest)) ++ [(none, text)]

/-! ## What is on the list -/

variable {α β : Type} {text rest : Text}

theorem mem_pure {value result : α} :
    (result, rest) ∈ (pure value : Search α) text ↔ result = value ∧ rest = text := by
  change (result, rest) ∈ [(value, text)] ↔ _
  simp

theorem mem_bind {first : Search α} {next : α → Search β} {result : β} :
    (result, rest) ∈ (first >>= next) text ↔
      ∃ value behind, (value, behind) ∈ first text ∧ (result, rest) ∈ next value behind := by
  change (result, rest) ∈ (first text).flatMap (fun (value, rest) => next value rest) ↔ _
  simp only [List.mem_flatMap, Prod.exists]

theorem mem_cuts {property : Char → Bool} {taken : Text} :
    (taken, rest) ∈ cuts property text ↔
      text = taken ++ rest ∧ ∀ c ∈ taken, property c = true := by
  induction text generalizing taken with
  | nil =>
    rw [cuts, List.mem_singleton, Prod.mk.injEq]
    constructor
    · rintro ⟨rfl, rfl⟩
      simp
    · rintro ⟨same, -⟩
      simpa [eq_comm] using same
  | cons c tail ih =>
    rw [cuts]
    by_cases inside : property c = true
    · rw [if_pos inside, List.mem_append, List.mem_singleton, Prod.mk.injEq]
      simp only [List.mem_map, Prod.exists, Prod.mk.injEq]
      constructor
      · rintro (⟨front, left, member, rfl, rfl⟩ | ⟨rfl, rfl⟩)
        · obtain ⟨rfl, all⟩ := ih.mp member
          exact ⟨rfl, by simpa using ⟨inside, all⟩⟩
        · simp
      · rintro ⟨same, all⟩
        cases taken with
        | nil => exact .inr ⟨rfl, same.symm⟩
        | cons d front =>
          obtain ⟨rfl, rest_eq⟩ := List.cons.inj same
          exact .inl ⟨front, rest, ih.mpr ⟨rest_eq, fun e member => all e (by simp [member])⟩,
            rfl, rfl⟩
    · rw [if_neg inside, List.mem_singleton, Prod.mk.injEq]
      constructor
      · rintro ⟨rfl, rfl⟩
        simp
      · rintro ⟨same, all⟩
        cases taken with
        | nil => exact ⟨rfl, same.symm⟩
        | cons d front =>
          obtain ⟨rfl, -⟩ := List.cons.inj same
          exact absurd (all c (by simp)) inside

theorem mem_run {property : Char → Bool} {taken : Text} :
    (taken, rest) ∈ run property text ↔
      text = taken ++ rest ∧ ∀ c ∈ taken, property c = true :=
  mem_cuts

theorem mem_filledRun {property : Char → Bool} {taken : Text} :
    (taken, rest) ∈ filledRun property text ↔
      text = taken ++ rest ∧ taken ≠ [] ∧ ∀ c ∈ taken, property c = true := by
  change (taken, rest) ∈ (cuts property text).filter _ ↔ _
  rw [List.mem_filter, mem_cuts]
  simp only [Bool.not_eq_true', List.isEmpty_eq_false_iff]
  exact ⟨fun ⟨⟨same, all⟩, filled⟩ => ⟨same, filled, all⟩,
    fun ⟨same, filled, all⟩ => ⟨⟨same, all⟩, filled⟩⟩

theorem mem_one {property : Char → Bool} {c : Char} :
    (c, rest) ∈ one property text ↔ text = c :: rest ∧ property c = true := by
  cases text with
  | nil => simp [one]
  | cons d tail =>
    by_cases inside : property d = true
    · simp only [one, inside, if_true, List.mem_singleton, Prod.mk.injEq, List.cons.injEq]
      constructor
      · rintro ⟨rfl, rfl⟩
        exact ⟨⟨rfl, rfl⟩, inside⟩
      · rintro ⟨⟨rfl, rfl⟩, -⟩
        exact ⟨rfl, rfl⟩
    · simp only [one, inside, Bool.false_eq_true, if_false, List.not_mem_nil, false_iff]
      rintro ⟨same, holds⟩
      obtain ⟨rfl, -⟩ := List.cons.inj same
      exact inside holds

theorem mem_literal {fixed : Text} {value result : α} :
    (result, rest) ∈ literal fixed value text ↔ result = value ∧ text = fixed ++ rest := by
  change (result, rest) ∈ (if fixed.isPrefixOf text then _ else _) ↔ _
  split
  · rename_i here
    obtain ⟨tail, rfl⟩ := List.isPrefixOf_iff_prefix.mp here
    simp [eq_comm]
  · rename_i absent
    simp only [List.not_mem_nil, false_iff, not_and]
    rintro - rfl
    exact absent (List.isPrefixOf_iff_prefix.mpr (List.prefix_append ..))

theorem mem_either {first second : Search α} {result : α} :
    (result, rest) ∈ either first second text ↔
      (result, rest) ∈ first text ∨ (result, rest) ∈ second text :=
  List.mem_append

theorem mem_maybe {search : Search α} {result : Option α} :
    (result, rest) ∈ maybe search text ↔
      (∃ value, (value, rest) ∈ search text ∧ result = some value) ∨
        result = none ∧ rest = text := by
  change (result, rest) ∈ (search text).map _ ++ [(none, text)] ↔ _
  simp only [List.mem_append, List.mem_map, Prod.exists, Prod.mk.injEq, List.mem_singleton]
  constructor
  · rintro (⟨value, behind, member, rfl, rfl⟩ | other)
    · exact .inl ⟨value, member, rfl⟩
    · exact .inr other
  · rintro (⟨value, member, rfl⟩ | other)
    · exact .inl ⟨value, rest, member, rfl, rfl⟩
    · exact .inr other

theorem mem_maybe_one {property : Char → Bool} {result : Option Char} :
    (result, rest) ∈ maybe (one property) text ↔
      text = result.toList ++ rest ∧ ∀ c ∈ result, property c = true := by
  rw [mem_maybe]
  simp only [mem_one]
  constructor
  · rintro (⟨c, ⟨rfl, inside⟩, rfl⟩ | ⟨rfl, rfl⟩)
    · exact ⟨rfl, by simpa using inside⟩
    · exact ⟨rfl, by simp⟩
  · rintro ⟨rfl, inside⟩
    cases result with
    | none => exact .inr ⟨rfl, rfl⟩
    | some c => exact .inl ⟨c, ⟨rfl, inside c rfl⟩, rfl⟩

/-! ## The order of the list -/

/-- One character that may be left out: the way that takes it, and behind it the way that does
not. -/
theorem pairwise_maybe_one {property : Char → Bool}
    {order : Option Char × Text → Option Char × Text → Prop}
    (taken : ∀ c rest, text = c :: rest → property c = true → order (some c, rest) (none, text)) :
    (maybe (one property) text).Pairwise order := by
  cases text with
  | nil => exact List.pairwise_singleton ..
  | cons c rest =>
    change (((if property c then [(c, rest)] else []).map _) ++ [(none, c :: rest)]).Pairwise order
    by_cases inside : property c = true
    · rw [if_pos inside]
      simpa using taken c rest rfl inside
    · rw [if_neg inside]
      exact List.pairwise_singleton ..

/-- A shorter run stops in front of a character that it could have taken. -/
theorem pairwise_cuts (property : Char → Bool) (text : Text) :
    (cuts property text).Pairwise fun first second =>
      second.1.length < first.1.length ∧ ∃ c ∈ second.2.head?, property c = true := by
  induction text with
  | nil => simp [cuts]
  | cons c tail ih =>
    rw [cuts]
    split
    · rename_i inside
      rw [List.pairwise_append]
      refine ⟨List.pairwise_map.mpr (ih.imp ?_), by simp, ?_⟩
      · rintro ⟨_, _⟩ ⟨_, _⟩ ⟨shorter, stops⟩
        exact ⟨Nat.succ_lt_succ shorter, stops⟩
      · intro longer member shorter last
        obtain ⟨⟨front, left⟩, -, rfl⟩ := List.mem_map.mp member
        obtain rfl := List.mem_singleton.mp last
        exact ⟨Nat.succ_pos _, c, rfl, inside⟩
    · simp

theorem pairwise_bind {order : β × Text → β × Text → Prop} {first : Search α}
    {next : α → Search β}
    (within : ∀ value behind, (value, behind) ∈ first text → (next value behind).Pairwise order)
    (between : (first text).Pairwise fun earlier later =>
      ∀ one ∈ next earlier.1 earlier.2, ∀ two ∈ next later.1 later.2, order one two) :
    ((first >>= next) text).Pairwise order :=
  List.pairwise_flatMap.mpr ⟨fun way member => within way.1 way.2 member, between⟩

end Search

end Numbering
