import Numbering.Settings.Path

/-! # Layers of a tree of settings

Setting an entry changes what stands at one key, the key in lowercase or the first key of a path, and
leaves the others alone. A run of such steps whose keys are distinct therefore gives a key what the
one step for it makes of the entry that stood there (`get?_foldl`). Merging a table and laying a
document over the tree are two such runs, at the keys of a section and at the sections.
-/

namespace Numbering.Entry

variable {root value : Entry} {name key other : Text} {fields incoming : List (Text × Entry)}

/-! ## One entry -/

theorem lookup_cons_eq (key : Text) (value : Entry) (fields : List (Text × Entry)) (other : Text) :
    List.lookup other ((key, value) :: fields) =
      if other = key then some value else fields.lookup other := by
  rw [List.lookup_cons]
  by_cases same : other = key
  · rw [if_pos same, beq_iff_eq.mpr same]
  · rw [if_neg same, beq_false_of_ne same]

theorem lookup_putField (key : Text) (value : Entry) (fields : List (Text × Entry)) (other : Text) :
    (putField key value fields).lookup other =
      if other = key then some value else fields.lookup other := by
  induction fields with
  | nil => exact lookup_cons_eq key value [] other
  | cons field rest ih =>
    obtain ⟨first, held⟩ := field
    rw [putField]
    by_cases here : first = key
    · subst here
      rw [if_pos rfl, lookup_cons_eq, lookup_cons_eq]
      split <;> rfl
    · rw [if_neg here, lookup_cons_eq, lookup_cons_eq, ih]
      by_cases same : other = first
      · rw [if_pos same, if_pos same, if_neg (same ▸ here)]
      · rw [if_neg same, if_neg same]

theorem get?_put (root : Entry) (key : Text) (value : Entry) (other : Text) :
    (root.put key value).get? other = if other = key then some value else root.get? other := by
  cases root with
  | table origin fields => exact lookup_putField key value fields other
  | scalar => exact lookup_putField key value [] other
  | list => exact lookup_putField key value [] other

/-- What is made of an entry when a value is set over it. -/
def overlay (standing : Option Entry) : (value : Entry) → Entry
  | .table _ incoming => merge (standing.getD empty) incoming
  | .scalar origin value => .scalar origin value
  | .list origin items => .list origin items

theorem set_eq_put (root : Entry) (key : Text) (value : Entry) :
    root.set key value =
      root.put (Text.toLowercase key) (overlay (root.get? (Text.toLowercase key)) value) := by
  cases value <;> rfl

theorem get?_set (root : Entry) (key : Text) (value : Entry) (other : Text) :
    (root.set key value).get? other =
      if other = Text.toLowercase key then some (overlay (root.get? other) value)
      else root.get? other := by
  rw [set_eq_put, get?_put]
  split
  case isTrue same => rw [same]
  case isFalse => rfl

theorem get?_setPath_of_ne {steps : List PathStep} (apart : other ≠ Text.toLowercase name) :
    (root.setPath value (.key name :: steps)).get? other = root.get? other := by
  cases steps with
  | nil => rw [setPath, get?_set, if_neg apart]
  | cons step steps =>
    rw [setPath, get?_put, if_neg apart]
    simp

/-! ## A run of entries -/

/-- Steps that each change one key, of which one at most is the step for a key, give the key what
that step makes of the entry there. -/
theorem get?_foldl {step : Entry → Text × Entry → Entry} {target : Text → Text}
    (elsewhere : ∀ root field, target field.1 ≠ name → (step root field).get? name = root.get? name)
    (here : ∀ root value, (step root (name, value)).get? name = some (overlay (root.get? name) value))
    (distinct : (fields.map Prod.fst).Nodup)
    (plain : ∀ key ∈ fields.map Prod.fst, target key = name → key = name) (root : Entry) :
    (fields.foldl step root).get? name =
      match fields.lookup name with
      | some value => some (overlay (root.get? name) value)
      | none => root.get? name := by
  induction fields generalizing root with
  | nil => rfl
  | cons field rest ih =>
    obtain ⟨key, value⟩ := field
    obtain ⟨fresh, distinct⟩ := List.nodup_cons.mp distinct
    obtain ⟨first, plain⟩ := List.forall_mem_cons.mp plain
    rw [List.foldl_cons, ih distinct plain, lookup_cons_eq]
    by_cases same : name = key
    · subst same
      have absent : rest.lookup name = none := by
        rw [List.lookup_eq_none_iff]
        intro field listed
        have apart : name ≠ field.1 := by
          rintro rfl
          exact fresh (List.mem_map.mpr ⟨field, listed, rfl⟩)
        simpa using apart
      rw [absent, if_pos rfl, here]
    · have apart : target key ≠ name := fun aimed => same (first aimed).symm
      rw [if_neg same, elsewhere root (key, value) apart]

theorem merge_eq_foldl (root : Entry) (incoming : List (Text × Entry)) :
    root.merge incoming = incoming.foldl (fun root field => root.set field.1 field.2) root := by
  induction incoming generalizing root with
  | nil => rfl
  | cons field rest ih => exact ih _

/-- A table that is merged in says what stands at a key, if it says anything of it. -/
theorem get?_merge (lower : Text.toLowercase name = name) (distinct : (fields.map Prod.fst).Nodup)
    (plain : ∀ key ∈ fields.map Prod.fst, Text.toLowercase key = name → key = name) (root : Entry) :
    (root.merge fields).get? name =
      match fields.lookup name with
      | some value => some (overlay (root.get? name) value)
      | none => root.get? name := by
  rw [merge_eq_foldl]
  apply get?_foldl _ _ distinct plain
  · intro root field apart
    rw [get?_set, if_neg apart.symm]
  · intro root value
    rw [get?_set, if_pos lower.symm]

/-! ## Documents -/

/-- The key of the tree that a key of a document changes: its first part, if it is a path. -/
def targetKey (key : Text) : Text :=
  match PathStep.readPath? key with
  | some (.key name :: _) => Text.toLowercase name
  | _ => Text.toLowercase key

/-- A path begins with a key. -/
theorem exists_key_of_readPath? {steps : List PathStep} (read : PathStep.readPath? key = some steps) :
    ∃ name rest, steps = .key name :: rest := by
  obtain ⟨⟨first, behind⟩, scanned, read⟩ := Option.bind_eq_some_iff.mp read
  obtain ⟨rest, -, same⟩ := Option.bind_eq_some_iff.mp read
  cases same
  unfold PathStep.scanKey? at scanned
  split at scanned
  · cases scanned
  · cases scanned
    exact ⟨_, rest, rfl⟩

/-- A document laid over the tree says what stands at a section, if it has a table for it. -/
theorem get?_layer (whole : PathStep.readPath? name = some [.key name])
    (lower : Text.toLowercase name = name) (distinct : (fields.map Prod.fst).Nodup)
    (plain : ∀ key ∈ fields.map Prod.fst, targetKey key = name → key = name) (root : Entry) :
    (root.layer fields).get? name =
      match fields.lookup name with
      | some value => some (overlay (root.get? name) value)
      | none => root.get? name := by
  apply get?_foldl _ _ distinct plain
  · rintro root ⟨key, value⟩ apart
    dsimp only
    rw [targetKey] at apart
    cases read : PathStep.readPath? key with
    | none =>
      rw [read] at apart
      rw [get?_set, if_neg apart.symm]
    | some steps =>
      obtain ⟨first, rest, rfl⟩ := exists_key_of_readPath? read
      rw [read] at apart
      exact get?_setPath_of_ne apart.symm
  · intro root value
    dsimp only
    rw [whole]
    dsimp only
    rw [setPath, get?_set, if_pos lower.symm]

theorem ofFields_eq_map (origin : Option Text) (fields : Toml.Fields) :
    ofFields origin fields = fields.map fun field => (field.1, ofValue origin field.2) := by
  induction fields with
  | nil => rfl
  | cons field rest ih => rw [ofFields, ih, List.map_cons]

theorem map_fst_ofFields (origin : Option Text) (fields : Toml.Fields) :
    (ofFields origin fields).map Prod.fst = fields.map Prod.fst := by
  rw [ofFields_eq_map, List.map_map]
  rfl

theorem lookup_ofFields (origin : Option Text) (fields : Toml.Fields) (key : Text) :
    (ofFields origin fields).lookup key = (fields.lookup key).map (ofValue origin) := by
  induction fields with
  | nil => rfl
  | cons field rest ih =>
    rw [ofFields, List.lookup_cons, List.lookup_cons, ih]
    cases key == field.1 <;> rfl

end Numbering.Entry
