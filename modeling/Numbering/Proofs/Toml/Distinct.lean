import Mathlib.Data.List.Nodup
import Numbering.Toml.Value

/-! # Tables without a repeated key

A table has no key twice, at any depth, if it started so: every way to add to it either finds the
key and changes its value, or does not find it and adds it behind the others. Whoever looks a key up
finds all that the table says about it.
-/

namespace Numbering.Toml

/-- A value in which no table has a key twice. -/
inductive Value.Distinct : Value → Prop
  | text (text : Text) : Distinct (.text text)
  | integer (number : Int) : Distinct (.integer number)
  | float (number : Binary64) : Distinct (.float number)
  | boolean (value : Bool) : Distinct (.boolean value)
  | datetime (moment : Datetime) : Distinct (.datetime moment)
  | array {growing : Bool} {items : List Value} (each : ∀ item ∈ items, item.Distinct) :
      Distinct (.array growing items)
  | table {opening : Opening} {fields : Fields} (keys : (fields.map Prod.fst).Nodup)
      (each : ∀ field ∈ fields, field.2.Distinct) : Distinct (.table opening fields)

/-- Fields with distinct keys, and values of which the same holds. -/
structure Fields.Distinct (fields : Fields) : Prop where
  keys : (fields.map Prod.fst).Nodup
  each : ∀ field ∈ fields, field.2.Distinct

namespace Value.Distinct

variable {opening : Opening} {growing : Bool} {fields : Fields} {items : List Value}

theorem ofFields (distinct : fields.Distinct) : (Value.table opening fields).Distinct :=
  .table distinct.keys distinct.each

theorem toFields (distinct : (Value.table opening fields).Distinct) : fields.Distinct := by
  cases distinct with
  | table keys each => exact ⟨keys, each⟩

theorem toItems (distinct : (Value.array growing items).Distinct) :
    ∀ item ∈ items, item.Distinct := by
  cases distinct with
  | array each => exact each

end Value.Distinct

namespace Fields

variable {fields result : Fields} {key : Text} {path : List Text} {value : Value}

/-! ## Changes of one table -/

theorem notMem_keys_of_lookup (free : fields.lookup key = none) : key ∉ fields.map Prod.fst := by
  intro member
  obtain ⟨field, listed, rfl⟩ := List.mem_map.mp member
  simpa using List.lookup_eq_none_iff.mp free field listed

theorem mem_of_lookup (found : fields.lookup key = some value) : (key, value) ∈ fields := by
  obtain ⟨before, after, rfl, -⟩ := List.lookup_eq_some_iff.mp found
  simp

theorem map_fst_replace (fields : Fields) (key : Text) (value : Value) :
    (fields.replace key value).map Prod.fst = fields.map Prod.fst := by
  rw [replace, List.map_map]
  apply List.map_congr_left
  intro field _
  by_cases same : field.1 = key <;> simp [same]

namespace Distinct

theorem nil : Distinct [] :=
  ⟨List.nodup_nil, by simp⟩

theorem lookup (distinct : fields.Distinct) (found : fields.lookup key = some value) :
    value.Distinct :=
  distinct.each _ (mem_of_lookup found)

/-- A key that is not there may be added. -/
theorem append (distinct : fields.Distinct) (free : key ∉ fields.map Prod.fst)
    (sound : value.Distinct) : Distinct (fields ++ [(key, value)]) where
  keys := by
    rw [List.map_append, List.map_cons, List.map_nil]
    exact List.Nodup.append distinct.keys (List.nodup_singleton key) (by simpa using free)
  each := by
    intro field listed
    rcases List.mem_append.mp listed with old | new
    · exact distinct.each field old
    · obtain rfl := List.mem_singleton.mp new
      exact sound

/-- A value may be replaced. -/
theorem replace (distinct : fields.Distinct) (key : Text) (sound : value.Distinct) :
    Distinct (fields.replace key value) where
  keys := by
    rw [map_fst_replace]
    exact distinct.keys
  each := by
    intro field listed
    obtain ⟨old, present, rfl⟩ := List.mem_map.mp listed
    split
    · exact sound
    · exact distinct.each old present

/-- Fields may be left out. -/
theorem filter (distinct : fields.Distinct) (keep : Text × Value → Bool) :
    Distinct (fields.filter keep) where
  keys := distinct.keys.sublist (List.filter_sublist.map Prod.fst)
  each field listed := distinct.each field (List.mem_of_mem_filter listed)

/-- The last table of a growing array may be replaced. -/
theorem replaceLast {items : List Value} {opening : Opening} {inner : Fields} {growing : Bool}
    (distinct : fields.Distinct) (found : fields.lookup key = some (.array growing items))
    (sound : inner.Distinct) :
    Distinct (fields.replace key (.array growing (items.dropLast ++ [.table opening inner]))) := by
  apply distinct.replace
  apply Value.Distinct.array
  intro item listed
  rcases List.mem_append.mp listed with old | new
  · exact (distinct.lookup found).toItems item (List.dropLast_subset items old)
  · obtain rfl := List.mem_singleton.mp new
    exact .ofFields sound

end Distinct

/-! ## Changes along a path -/

theorem Distinct.add? (distinct : fields.Distinct) (sound : value.Distinct)
    (added : fields.add? key value = some result) : result.Distinct := by
  unfold Fields.add? at added
  split at added
  case h_1 => cases added
  case h_2 free =>
    cases added
    exact distinct.append (notMem_keys_of_lookup free) sound

/-- What keeps the keys of a table distinct does so for the table that a header names. -/
theorem Distinct.atHeader? {act : Fields → Option Fields}
    (keeps : ∀ {before after : Fields}, before.Distinct → act before = some after → after.Distinct)
    (distinct : fields.Distinct) (done : Fields.atHeader? act path fields = some result) :
    result.Distinct := by
  induction path generalizing fields result with
  | nil => exact keeps distinct done
  | cons step path ih =>
    rw [Fields.atHeader?] at done
    split at done
    case h_1 free =>
      obtain ⟨inner, reached, made⟩ := Option.bind_eq_some_iff.mp done
      cases made
      exact distinct.append (notMem_keys_of_lookup free) (.ofFields (ih .nil reached))
    case h_2 => cases done
    case h_3 opening inner _ found =>
      obtain ⟨inner, reached, made⟩ := Option.bind_eq_some_iff.mp done
      cases made
      exact distinct.replace step (.ofFields (ih (distinct.lookup found).toFields reached))
    case h_4 items found =>
      split at done
      case h_1 opening inner last =>
        obtain ⟨inner, reached, made⟩ := Option.bind_eq_some_iff.mp done
        cases made
        have held := (distinct.lookup found).toItems _ (List.mem_of_getLast? last)
        exact distinct.replaceLast found (ih held.toFields reached)
      case h_2 => cases done
    case h_5 => cases done

theorem Distinct.setDotted? (distinct : fields.Distinct) (sound : value.Distinct)
    (done : Fields.setDotted? key value path fields = some result) : result.Distinct := by
  induction path generalizing fields result with
  | nil => exact distinct.add? sound done
  | cons step path ih =>
    rw [Fields.setDotted?] at done
    split at done
    case h_1 free =>
      obtain ⟨inner, reached, made⟩ := Option.bind_eq_some_iff.mp done
      cases made
      exact distinct.append (notMem_keys_of_lookup free) (.ofFields (ih .nil reached))
    case h_2 found =>
      obtain ⟨inner, reached, made⟩ := Option.bind_eq_some_iff.mp done
      cases made
      exact distinct.replace step (.ofFields (ih (distinct.lookup found).toFields reached))
    case h_3 found =>
      split at done
      · cases done
      · obtain ⟨inner, reached, made⟩ := Option.bind_eq_some_iff.mp done
        cases made
        exact distinct.replace step (.ofFields (ih (distinct.lookup found).toFields reached))
    case h_4 items found =>
      split at done
      case h_1 opening inner last =>
        obtain ⟨inner, reached, made⟩ := Option.bind_eq_some_iff.mp done
        cases made
        have held := (distinct.lookup found).toItems _ (List.mem_of_getLast? last)
        exact distinct.replaceLast found (ih held.toFields reached)
      case h_2 => cases done
    case h_5 => cases done

theorem Distinct.openTable? (distinct : fields.Distinct)
    (done : Fields.openTable? key fields = some result) : result.Distinct := by
  rw [Fields.openTable?] at done
  split at done
  case h_1 free =>
    cases done
    exact distinct.append (notMem_keys_of_lookup free) (.ofFields .nil)
  case h_2 inner found =>
    cases done
    apply (distinct.filter _).append _ (.ofFields (distinct.lookup found).toFields)
    simp
  case h_3 => cases done

theorem Distinct.openElement? (distinct : fields.Distinct)
    (done : Fields.openElement? key fields = some result) : result.Distinct := by
  have opened : (Value.table .header []).Distinct := .ofFields .nil
  rw [Fields.openElement?] at done
  split at done
  case h_1 free =>
    cases done
    exact distinct.append (notMem_keys_of_lookup free) (.array (by simpa using opened))
  case h_2 items found =>
    cases done
    apply distinct.replace key (.array _)
    intro item listed
    rcases List.mem_append.mp listed with old | new
    · exact (distinct.lookup found).toItems item old
    · obtain rfl := List.mem_singleton.mp new
      exact opened
  case h_3 => cases done

end Fields

end Numbering.Toml
