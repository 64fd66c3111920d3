import Mathlib.Data.List.Forall2

/-! # Traversals that may fail

A list is traversed by a function that may fail for each of its elements. The traversal succeeds
with the results of the elements in order, or not at all.
-/

namespace Numbering

variable {α β γ ε η : Type}

/-- If every element is a value of a function, the elements are the values of a list. -/
theorem exists_map_eq_of_forall {f : β → α} {property : β → Prop} {elements : List α}
    (each : ∀ element ∈ elements, ∃ source, property source ∧ f source = element) :
    ∃ sources : List β, (∀ source ∈ sources, property source) ∧ sources.map f = elements := by
  induction elements with
  | nil => exact ⟨[], by simp, rfl⟩
  | cons element rest ih =>
    obtain ⟨⟨source, holds, rfl⟩, others⟩ := List.forall_mem_cons.mp each
    obtain ⟨sources, all, rfl⟩ := ih others
    exact ⟨source :: sources, List.forall_mem_cons.mpr ⟨holds, all⟩, rfl⟩

theorem mapM_eq_ok_iff {step : α → Except ε β} {elements : List α} {results : List β} :
    elements.mapM step = .ok results ↔
      List.Forall₂ (fun element result => step element = .ok result) elements results := by
  induction elements generalizing results with
  | nil => cases results <;> simp [pure, Except.pure]
  | cons element rest ih =>
    rw [List.mapM_cons, List.forall₂_cons_left_iff]
    cases here : step element with
    | error fault => simp [bind, Except.bind]
    | ok result =>
      cases later : rest.mapM step with
      | error fault => simp [bind, Except.bind, ← ih, later]
      | ok tail =>
        simp [bind, Except.bind, pure, Except.pure, ← ih, later, eq_comm]

theorem mapM_eq_some_iff {step : α → Option β} {elements : List α} {results : List β} :
    elements.mapM step = some results ↔
      List.Forall₂ (fun element result => step element = some result) elements results := by
  induction elements generalizing results with
  | nil => cases results <;> simp
  | cons element rest ih =>
    rw [List.mapM_cons, List.forall₂_cons_left_iff]
    cases here : step element with
    | none => simp
    | some result =>
      cases later : rest.mapM step with
      | none => simp [← ih, later]
      | some tail => simp [← ih, later, eq_comm]

/-- A traversal fails exactly if it fails for an element. -/
theorem mapM_eq_none_iff {step : α → Option β} {elements : List α} :
    elements.mapM step = none ↔ ∃ element ∈ elements, step element = none := by
  induction elements with
  | nil => simp
  | cons element rest ih =>
    rw [List.mapM_cons]
    cases here : step element with
    | none => simp [here]
    | some result =>
      cases later : rest.mapM step with
      | none => simpa [here, later] using ih
      | some tail => simpa [here, later] using ih

/-- A traversal fails as it does for the first element for which it fails. -/
theorem mapM_eq_error_iff {step : α → Except ε β} {elements : List α} {fault : ε} :
    elements.mapM step = .error fault ↔ ∃ front element back,
      elements = front ++ element :: back ∧
        (∀ earlier ∈ front, ∃ result, step earlier = .ok result) ∧ step element = .error fault := by
  induction elements with
  | nil => simp [pure, Except.pure]
  | cons head rest ih =>
    rw [List.mapM_cons]
    cases here : step head with
    | error first =>
      change Except.error first = .error fault ↔ _
      constructor
      · intro same
        obtain rfl : first = fault := Except.error.inj same
        exact ⟨[], head, rest, rfl, by simp, here⟩
      · rintro ⟨front, element, back, split, fine, fails⟩
        cases front with
        | nil =>
          obtain ⟨rfl, -⟩ := List.cons.inj split
          rw [Except.error.inj (here.symm.trans fails)]
        | cons other others =>
          obtain ⟨rfl, -⟩ := List.cons.inj split
          obtain ⟨result, success⟩ := fine head List.mem_cons_self
          rw [here] at success
          cases success
    | ok value =>
      have later : (Except.ok value >>= fun result => do
          let results ← rest.mapM step
          pure (result :: results)) = .error fault ↔ rest.mapM step = .error fault := by
        cases rest.mapM step <;> simp [bind, Except.bind, pure, Except.pure]
      rw [later, ih]
      constructor
      · rintro ⟨front, element, back, rfl, fine, fails⟩
        refine ⟨head :: front, element, back, rfl, ?_, fails⟩
        intro earlier member
        rcases List.mem_cons.mp member with rfl | member
        · exact ⟨value, here⟩
        · exact fine earlier member
      · rintro ⟨front, element, back, split, fine, fails⟩
        cases front with
        | nil =>
          obtain ⟨rfl, -⟩ := List.cons.inj split
          rw [here] at fails
          cases fails
        | cons other others =>
          obtain ⟨rfl, rfl⟩ := List.cons.inj split
          exact ⟨others, element, back, rfl,
            fun earlier member => fine earlier (List.mem_cons_of_mem _ member), fails⟩

/-- A traversal succeeds exactly if it does for every element. -/
theorem exists_mapM_eq_ok_iff {step : α → Except ε β} {elements : List α} :
    (∃ results, elements.mapM step = .ok results) ↔
      ∀ element ∈ elements, ∃ result, step element = .ok result := by
  cases outcome : elements.mapM step with
  | error fault =>
    obtain ⟨front, element, back, rfl, -, fails⟩ := mapM_eq_error_iff.mp outcome
    refine iff_of_false (by simp) fun each => ?_
    obtain ⟨result, success⟩ := each element (by simp)
    rw [fails] at success
    cases success
  | ok results =>
    have each := mapM_eq_ok_iff.mp outcome
    refine iff_of_true ⟨results, rfl⟩ ?_
    clear outcome
    induction each with
    | nil => simp
    | cons head _ ih => exact List.forall_mem_cons.mpr ⟨⟨_, head⟩, ih⟩

/-- Renaming results and faults can wait until the traversal is over. -/
theorem mapM_map_mapError (step : α → Except ε β) (result : β → γ) (fault : ε → η)
    (elements : List α) :
    elements.mapM (fun element => ((step element).map result).mapError fault) =
      ((elements.mapM step).map (List.map result)).mapError fault := by
  induction elements with
  | nil => rfl
  | cons element rest ih =>
    rw [List.mapM_cons, List.mapM_cons, ih]
    cases step element with
    | error error => rfl
    | ok value => cases rest.mapM step <;> rfl

end Numbering
