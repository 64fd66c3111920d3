import Numbering.Proofs.Settings.Setting
import Numbering.Proofs.Toml.Document
import Numbering.Settings

/-! # Layers of settings

Of files laid over one another, the last that says something about a setting decides it, and
overrides, which come after all files, decide in the same manner among themselves. Both are runs of
steps of which each keeps a tree with a value at every setting (`addLayer_of_plain`,
`Entry.at?_setPath`).
-/

namespace Numbering

/-! ## What comes last -/

section Latest

variable {α β : Type}

/-- What the last item sets that sets anything. -/
def latest (sets : α → Option β) (items : List α) : Option β :=
  items.reverse.findSome? sets

theorem latest_append (sets : α → Option β) (before after : List α) :
    latest sets (before ++ after) = (latest sets after).or (latest sets before) := by
  rw [latest, List.reverse_append, List.findSome?_append]
  rfl

theorem latest_cons (sets : α → Option β) (item : α) (rest : List α) :
    latest sets (item :: rest) = (latest sets rest).or (sets item) := by
  rw [latest, List.reverse_cons, List.findSome?_append, List.findSome?_singleton]
  rfl

theorem latest_filterMap {γ : Type} (sets : β → Option γ) (part : α → Option β) (items : List α) :
    latest sets (items.filterMap part) = latest (fun item => (part item).bind sets) items := by
  rw [latest, latest, ← List.filterMap_reverse, ← List.head?_filterMap, ← List.head?_filterMap,
    List.filterMap_filterMap]

theorem latest_congr {first second : α → Option β} {items : List α}
    (same : ∀ item ∈ items, first item = second item) : latest first items = latest second items := by
  rw [latest, latest, ← List.head?_filterMap, ← List.head?_filterMap,
    List.filterMap_congr fun item listed => same item (List.mem_reverse.mp listed)]

theorem latest_insert {sets : α → Option β} {item : α} (silent : sets item = none)
    (before after : List α) : latest sets (before ++ item :: after) = latest sets (before ++ after) := by
  rw [latest_append, latest_append, latest_cons, silent, Option.or_none]

theorem latest_exchange {sets : α → Option β} {first second : α} (same : sets first = sets second)
    (before after : List α) :
    latest sets (before ++ first :: after) = latest sets (before ++ second :: after) := by
  rw [latest_append, latest_append, latest_cons, latest_cons, same]

theorem exists_mem_of_latest {sets : α → Option β} {items : List α} {value : β}
    (found : latest sets items = some value) : ∃ item ∈ items, sets item = some value := by
  obtain ⟨item, listed, set⟩ := List.exists_of_findSome?_eq_some found
  exact ⟨item, List.mem_reverse.mp listed, set⟩

end Latest

namespace Settings

/-! ## Files -/

/-- A file that is there if it has to be, and is a plain document if it is there. -/
def Layer.Plain (layer : Layer) : Prop :=
  match layer.content with
  | none => layer.required = false
  | some content =>
    ∃ fields ∈ Toml.read? content, ∀ setting : Setting, setting.PlainFor fields

instance (layer : Layer) : Decidable layer.Plain :=
  match layer with
  | ⟨_, none, required⟩ => inferInstanceAs (Decidable (required = false))
  | ⟨_, some content, _⟩ =>
    inferInstanceAs
      (Decidable (∃ fields ∈ Toml.read? content, ∀ setting : Setting, setting.PlainFor fields))

def Layer.value? (setting : Setting) (layer : Layer) : Option Scalar := do
  let content ← layer.content
  let fields ← Toml.read? content
  setting.definedIn? fields

variable {root : Entry} {values : Setting → Scalar}

theorem Layer.Plain.accepts {layer : Layer} {setting : Setting} {value : Scalar}
    (plain : layer.Plain) (set : layer.value? setting = some value) : setting.accepts value := by
  obtain ⟨name, content, required⟩ := layer
  cases content with
  | none => cases set
  | some content =>
    obtain ⟨fields, read, plain⟩ := plain
    rw [Layer.value?] at set
    simp only [Option.mem_def.mp read, Option.bind_eq_bind, Option.bind_some] at set
    exact (plain setting).accepts set

theorem addLayer_of_plain {layer : Layer} (plain : layer.Plain) (holds : root.Holds values) :
    ∃ next, addLayer root layer = .ok next ∧
      next.Holds fun setting => (layer.value? setting).getD (values setting) := by
  obtain ⟨name, content, required⟩ := layer
  cases content with
  | none =>
    obtain rfl : required = false := plain
    exact ⟨root, rfl, holds⟩
  | some content =>
    obtain ⟨fields, found, plain⟩ := plain
    have read : Toml.read? content = some fields := found
    have added : addLayer root ⟨name, some content, required⟩ =
        .ok (root.layer (Entry.ofFields (some name) fields)) := by
      simp only [addLayer, read]
    refine ⟨_, added, ?_⟩
    intro setting
    dsimp only
    have written : Layer.value? setting ⟨name, some content, required⟩ = setting.definedIn? fields := by
      simp only [Layer.value?, read, Option.bind_eq_bind, Option.bind_some]
    rw [written, Entry.at?_layer (Toml.distinct_of_read? read) (plain setting)]
    cases setting.definedIn? fields with
    | none => exact holds setting
    | some value => exact ⟨some name, rfl⟩

/-- Files one after another: the last one that sets a setting wins. -/
theorem foldlM_addLayer_of_plain {layers : List Layer} (plain : ∀ layer ∈ layers, layer.Plain)
    (holds : root.Holds values) :
    ∃ next, layers.foldlM addLayer root = .ok next ∧
      next.Holds fun setting => (latest (Layer.value? setting) layers).getD (values setting) := by
  induction layers generalizing root values with
  | nil => exact ⟨root, rfl, holds⟩
  | cons layer rest ih =>
    obtain ⟨first, plain⟩ := List.forall_mem_cons.mp plain
    obtain ⟨middle, added, holds⟩ := addLayer_of_plain first holds
    obtain ⟨next, layered, holds⟩ := ih plain holds
    refine ⟨next, ?_, ?_⟩
    · rw [List.foldlM_cons, added]
      exact layered
    · simpa only [latest_cons, Option.getD_or] using holds

/-! ## Overrides -/

/-- What an override sets a setting to. -/
def overrideValue? (setting : Setting) (override : List PathStep × Scalar) : Option Scalar :=
  if override.1 = setting.steps then some override.2 else none

/-- Overrides one after another. -/
theorem foldl_setPath_of_steps {overrides : List (List PathStep × Scalar)}
    (known : ∀ override ∈ overrides, ∃ setting : Setting, override.1 = setting.steps)
    (holds : root.Holds values) :
    Entry.Holds
      (overrides.foldl (fun root (steps, value) => root.setPath (.scalar none value) steps) root)
      fun setting => (latest (overrideValue? setting) overrides).getD (values setting) := by
  induction overrides generalizing root values with
  | nil => exact holds
  | cons override rest ih =>
    obtain ⟨steps, value⟩ := override
    obtain ⟨⟨target, first⟩, others⟩ := List.forall_mem_cons.mp known
    obtain rfl : steps = target.steps := first
    have set : (root.setPath (.scalar none value) target.steps).Holds fun setting =>
        (overrideValue? setting (target.steps, value)).getD (values setting) := by
      intro setting
      rw [Entry.at?_setPath]
      dsimp only [overrideValue?]
      by_cases same : setting = target
      · rw [if_pos same, same, if_pos rfl]
        exact ⟨none, rfl⟩
      · rw [if_neg same, if_neg fun equal => same (Setting.eq_of_steps equal).symm]
        exact holds setting
    simpa only [latest_cons, Option.getD_or, List.foldl_cons] using ih others set

end Settings

end Numbering
