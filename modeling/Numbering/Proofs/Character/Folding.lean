import Mathlib.Data.List.Basic
import Numbering.Character.CaseMapping

/-! # Case mappings and folding

Folding a second time changes nothing: no run of the lowercase mapping moves an image of another, or
of its own (`ShiftRun.settled_lowercaseShifts`). Lowercase is folding for every character but the
dotted capital I, which has two characters in lowercase.
-/

namespace Numbering.Character

/-- A code point stays where it is or is moved by a run that covers it. -/
theorem shifted_eq_or_covered (runs : List ShiftRun) (point : Nat) :
    shifted runs point = point ∨
      ∃ run ∈ runs, run.covers point = true ∧ shifted runs point = (point + run.shift).toNat := by
  induction runs with
  | nil => exact .inl rfl
  | cons run rest ih =>
    rw [shifted]
    split_ifs with early covered
    · exact .inl rfl
    · exact .inr ⟨run, List.mem_cons_self, covered, rfl⟩
    · refine ih.imp_right ?_
      rintro ⟨other, member, covered', image⟩
      exact ⟨other, List.mem_cons_of_mem _ member, covered', image⟩

/-- No other code point is moved to one that lies outside the images of all runs. -/
theorem shifted_ne {runs : List ShiftRun} {target point : Nat} (positive : 0 < target)
    (apart : ∀ run ∈ runs, run.last + run.shift < target ∨ target < run.first + run.shift)
    (other : point ≠ target) : shifted runs point ≠ target := by
  rcases shifted_eq_or_covered runs point with still | ⟨run, member, covered, image⟩
  · rwa [still]
  · simp only [ShiftRun.covers, Bool.and_eq_true, decide_eq_true_eq] at covered
    have outside := apart run member
    omega

/-- Whether runs leave the code points `low, low + stride, …, high` where they are. A run of every
other code point passes between those of another such run. -/
def ShiftRun.leave (low high stride : Nat) : List ShiftRun → Bool
  | [] => true
  | run :: rest =>
    Nat.blt high run.first ||
      (Nat.blt run.last low || (stride == 2 && run.stride == 2 && (low + run.first) % 2 == 1)) &&
        ShiftRun.leave low high stride rest

theorem shifted_of_leave {low high stride point : Nat} {runs : List ShiftRun}
    (leave : ShiftRun.leave low high stride runs = true) (above : low ≤ point) (below : point ≤ high)
    (strided : (point - low) % stride = 0) : shifted runs point = point := by
  induction runs with
  | nil => rfl
  | cons run rest ih =>
    simp only [ShiftRun.leave, Bool.or_eq_true, Bool.and_eq_true, Nat.blt_eq, beq_iff_eq] at leave
    rw [shifted]
    rcases leave with past | ⟨apart, later⟩
    · rw [if_pos (by omega)]
    · have uncovered : run.covers point = false := by
        rw [ShiftRun.covers]
        rcases apart with before | ⟨⟨rfl, two⟩, odd⟩
        · simp
          omega
        · simp [two]
          omega
      rw [ih later, uncovered]
      simp

/-- Whether no run moves an image of this one. -/
def ShiftRun.settled (runs : List ShiftRun) (run : ShiftRun) : Bool :=
  decide (0 ≤ run.first + run.shift) &&
    ShiftRun.leave (run.first + run.shift).toNat (run.last + run.shift).toNat
      (if run.first = run.last then 2 else run.stride) runs

theorem shifted_of_settled {runs : List ShiftRun} {run : ShiftRun} {point : Nat}
    (settled : run.settled runs = true) (covered : run.covers point = true) :
    shifted runs (point + run.shift).toNat = (point + run.shift).toNat := by
  simp only [ShiftRun.settled, Bool.and_eq_true, decide_eq_true_eq] at settled
  simp only [ShiftRun.covers, Bool.and_eq_true, decide_eq_true_eq, beq_iff_eq] at covered
  obtain ⟨⟨low, high⟩, strided⟩ := covered
  refine shifted_of_leave settled.2 (by omega) (by omega) ?_
  have same : (point + run.shift).toNat - (run.first + run.shift).toNat = point - run.first := by
    omega
  rw [same]
  split_ifs with single
  · omega
  · exact strided

theorem settled_lowercaseShifts : lowercaseShifts.all (ShiftRun.settled lowercaseShifts) = true := by
  decide +kernel

theorem mem_of_expansion? {table : List (Nat × List Nat)} {point : Nat} {images : List Nat}
    (found : expansion? table point = some images) : (point, images) ∈ table := by
  induction table with
  | nil => cases found
  | cons entry rest ih =>
    obtain ⟨source, targets⟩ := entry
    rw [expansion?] at found
    split_ifs at found with early here
    · cases found
      rw [here]
      exact List.mem_cons_self
    · exact List.mem_cons_of_mem _ (ih found)

theorem uppercase_ne_nil (c : Char) : uppercase c ≠ [] := by
  have filled : ∀ entry ∈ uppercaseExpansions, entry.2 ≠ [] := by decide
  unfold uppercase
  split
  · rename_i images found
    simpa using filled _ (mem_of_expansion? found)
  · exact List.cons_ne_nil _ _

theorem lowercase_eq_shifted {c : Char} (plain : c ≠ 'İ') :
    lowercase c = [Char.ofNat (shifted lowercaseShifts c.toNat)] := by
  rw [lowercase]
  split
  · rename_i images found
    have dotted : c.toNat = 'İ'.toNat :=
      congrArg Prod.fst (List.mem_singleton.mp (mem_of_expansion? found))
    exact absurd (Char.toNat_inj.mp dotted) plain
  · rfl

theorem fold_eq_shifted {c : Char} (plain : c ≠ 'İ') :
    fold c = Char.ofNat (shifted lowercaseShifts c.toNat) := by
  rw [fold, lowercase_eq_shifted plain]
  rfl

theorem lowercase_eq {c : Char} (plain : c ≠ 'İ') : lowercase c = [fold c] := by
  rw [lowercase_eq_shifted plain, fold_eq_shifted plain]

theorem lowercase_ne_nil (c : Char) : lowercase c ≠ [] := by
  by_cases dotted : c = 'İ'
  · rw [dotted]
    decide
  · rw [lowercase_eq dotted]
    exact List.cons_ne_nil _ _

/-- A number is the code point of its character, or the character is that of zero. -/
theorem toNat_ofNat_or (point : Nat) :
    (Char.ofNat point).toNat = point ∨ Char.ofNat point = '\x00' := by
  rw [Char.ofNat]
  by_cases valid : point.isValidChar
  · rw [dif_pos valid]
    exact .inl rfl
  · rw [dif_neg valid]
    exact .inr rfl

theorem fold_ofNat {point : Nat} (plain : point ≠ 'İ'.toNat)
    (still : shifted lowercaseShifts point = point) :
    fold (Char.ofNat point) = Char.ofNat point := by
  rcases toNat_ofNat_or point with same | zero
  · have plain' : Char.ofNat point ≠ 'İ' := fun dotted => plain (by rw [← dotted, same])
    rw [fold_eq_shifted plain', same, still]
  · rw [zero]
    decide

/-- A character that is no image of a run is the image of no other character. -/
theorem ofNat_shifted_ne {runs : List ShiftRun} {target c : Char} (positive : 0 < target.toNat)
    (apart : ∀ run ∈ runs,
      run.last + run.shift < target.toNat ∨ target.toNat < run.first + run.shift)
    (other : c ≠ target) : Char.ofNat (shifted runs c.toNat) ≠ target := by
  rintro rfl
  rcases toNat_ofNat_or (shifted runs c.toNat) with same | zero
  · exact shifted_ne positive apart (fun same => other (Char.toNat_inj.mp same)) same.symm
  · rw [zero] at positive
    exact absurd positive (by decide)

/-- The dotted capital I, the final sigma and the blank are no images of runs. -/
theorem lowercaseShifts_apart : ∀ target ∈ [0x130, 0x3C2, 0x20], ∀ run ∈ lowercaseShifts,
    run.last + run.shift < target ∨ target < run.first + run.shift := by
  decide +kernel

/-- A character is folded once and for all. -/
theorem fold_fold (c : Char) : fold (fold c) = fold c := by
  by_cases dotted : c = 'İ'
  · rw [dotted]
    decide
  · have apart := lowercaseShifts_apart 0x130 (by decide)
    have plain := shifted_ne (by decide) apart (fun same => dotted (Char.toNat_inj.mp same))
    rw [fold_eq_shifted dotted]
    refine fold_ofNat plain ?_
    rcases shifted_eq_or_covered lowercaseShifts c.toNat with still | ⟨run, member, covered, image⟩
    · rw [still, still]
    · rw [image]
      exact shifted_of_settled (List.all_eq_true.mp settled_lowercaseShifts run member) covered

/-! ## Characters that mappings do not bring in -/

/-- No letter but the final sigma itself is folded to it. -/
theorem eq_of_fold_eq_final {c : Char} (folded : fold c = 'ς') : c = 'ς' := by
  by_contra other
  have apart := lowercaseShifts_apart 'ς'.toNat (by decide)
  have plain : c ≠ 'İ' := by
    rintro rfl
    revert folded
    decide
  rw [fold_eq_shifted plain] at folded
  exact ofNat_shifted_ne (by decide) apart other folded

theorem eq_of_blank_mem_lowercase {c : Char} (blank : ' ' ∈ lowercase c) : c = ' ' := by
  by_contra other
  have apart := lowercaseShifts_apart ' '.toNat (by decide)
  have plain : c ≠ 'İ' := by
    rintro rfl
    revert blank
    decide
  rw [lowercase_eq_shifted plain] at blank
  exact ofNat_shifted_ne (by decide) apart other (List.mem_singleton.mp blank).symm

theorem eq_of_blank_mem_uppercase {c : Char} (blank : ' ' ∈ uppercase c) : c = ' ' := by
  by_contra other
  have apart : ∀ run ∈ uppercaseShifts,
      run.last + run.shift < ' '.toNat ∨ ' '.toNat < run.first + run.shift := by decide +kernel
  have expansions : ∀ entry ∈ uppercaseExpansions, ' ' ∉ entry.2.map Char.ofNat := by decide
  rw [uppercase] at blank
  split at blank
  · rename_i images found
    exact expansions _ (mem_of_expansion? found) blank
  · exact ofNat_shifted_ne (by decide) apart other (List.mem_singleton.mp blank).symm

end Numbering.Character
