import Mathlib.Data.Fintype.Basic
import Numbering.Proofs.Settings.Tree
import Numbering.Proofs.Toml.Distinct
import Numbering.Settings

/-! # Settings in a tree

Five settings stand in the tree, each at a key of its section. A plain document, in which each of
them stands alone under its own key and has a value of its type, changes exactly the settings that it
says something about (`Entry.at?_layer`), and an override changes exactly one
(`Entry.at?_setPath`).
-/

namespace Numbering

/-! ## Plain documents -/

namespace Toml.Fields

/-- Whether the fields that are taken for a key stand under the key itself and have values of a
kind. -/
def PlainAt (target : Text → Text) (key : Text) (kind : Value → Prop) (fields : Fields) : Prop :=
  ∀ field ∈ fields, target field.1 = key → field.1 = key ∧ kind field.2

instance (target : Text → Text) (key : Text) (kind : Value → Prop) [DecidablePred kind]
    (fields : Fields) : Decidable (fields.PlainAt target key kind) :=
  inferInstanceAs (Decidable (∀ field ∈ fields, _ → _))

namespace PlainAt

variable {target : Text → Text} {key : Text} {kind : Value → Prop} {fields : Fields} {value : Value}

theorem keys (plain : fields.PlainAt target key kind) :
    ∀ other ∈ fields.map Prod.fst, target other = key → other = key :=
  List.forall_mem_map.mpr fun field listed aimed => (plain field listed aimed).1

theorem of_lookup (plain : fields.PlainAt target key kind) (whole : target key = key)
    (found : fields.lookup key = some value) : kind value :=
  (plain _ (mem_of_lookup found) whole).2

end PlainAt

end Toml.Fields

/-! ## Settings -/

inductive Setting
  | letters
  | count
  | ellipsis
  | separator
  | marker
  deriving DecidableEq, Repr

namespace Setting

instance : Fintype Setting where
  elems := {.letters, .count, .ellipsis, .separator, .marker}
  complete setting := by cases setting <;> decide

def home : Setting → SettingsSection
  | .letters => .alphabet
  | .count => .preview
  | .ellipsis => .preview
  | .separator => .preview
  | .marker => .fill

def name : Setting → Text
  | .letters => "letters".toList
  | .count => "cursor_count".toList
  | .ellipsis => "ellipsis".toList
  | .separator => "separator".toList
  | .marker => "marker".toList

/-- The key of an override. -/
def key (setting : Setting) : Text :=
  setting.home.key ++ ['.'] ++ setting.name

def steps (setting : Setting) : List PathStep :=
  [.key setting.home.key, .key setting.name]

def standard : Setting → Scalar
  | .letters => .text Alphabet.latin.letters
  | .count => .integer PreviewShape.standard.count
  | .ellipsis => .text PreviewShape.standard.ellipsis
  | .separator => .text PreviewShape.standard.separator
  | .marker => .text ['{', '}']

/-- Whether a value has the type of a setting: a word for the count, and a text for the others. -/
def accepts : Setting → Scalar → Bool
  | .count, .integer number => 0 ≤ number && number.toNat ≤ Numeral.maxWord
  | .count, _ => false
  | _, .text _ => true
  | _, _ => false

def scalar? : Toml.Value → Option Scalar
  | .text text => some (.text text)
  | .integer number => some (.integer number)
  | _ => none

def table? : Toml.Value → Option Toml.Fields
  | .table _ fields => some fields
  | _ => none

/-- What a document says about a setting. -/
def definedIn? (setting : Setting) (fields : Toml.Fields) : Option Scalar :=
  ((fields.lookup setting.home.key).bind table?).bind fun inner =>
    (inner.lookup setting.name).bind scalar?

/-- Whether a table that says something about a setting does so by a value of its type, under its own
key. -/
def PlainIn (setting : Setting) (inner : Toml.Fields) : Prop :=
  inner.PlainAt Text.toLowercase setting.name fun value =>
    ∃ scalar ∈ scalar? value, setting.accepts scalar

/-- Whether a document does so in a table under the key of its section. What stands at other keys
does not matter. -/
def PlainFor (setting : Setting) (fields : Toml.Fields) : Prop :=
  fields.PlainAt Entry.targetKey setting.home.key fun value =>
    ∃ inner ∈ table? value, setting.PlainIn inner

instance (setting : Setting) (inner : Toml.Fields) : Decidable (setting.PlainIn inner) :=
  inferInstanceAs (Decidable (inner.PlainAt _ _ _))

instance (setting : Setting) (fields : Toml.Fields) : Decidable (setting.PlainFor fields) :=
  inferInstanceAs (Decidable (fields.PlainAt _ _ _))

theorem readPath?_key (setting : Setting) :
    PathStep.readPath? setting.key = some setting.steps := by
  cases setting <;> decide

theorem readPath?_home (setting : Setting) :
    PathStep.readPath? setting.home.key = some [.key setting.home.key] := by
  cases setting <;> decide

theorem toLowercase_home (setting : Setting) :
    Text.toLowercase setting.home.key = setting.home.key := by
  cases setting <;> decide

theorem toLowercase_name (setting : Setting) : Text.toLowercase setting.name = setting.name := by
  cases setting <;> decide

theorem eq_of_keys {first second : Setting} (home : first.home.key = second.home.key)
    (name : first.name = second.name) : first = second := by
  cases first <;> cases second <;>
    first | rfl | exact absurd home (by decide) | exact absurd name (by decide)

theorem eq_of_steps {first second : Setting} (same : first.steps = second.steps) :
    first = second := by
  cases first <;> cases second <;> first | rfl | exact absurd same (by decide)

theorem eq_of_key {first second : Setting} (same : first.key = second.key) : first = second := by
  cases first <;> cases second <;> first | rfl | exact absurd same (by decide)

theorem exists_text {setting : Setting} {value : Scalar} (accepted : setting.accepts value)
    (apart : setting ≠ .count) : ∃ text, value = .text text := by
  cases setting with
  | count => exact absurd rfl apart
  | _ =>
    cases value with
    | text text => exact ⟨text, rfl⟩
    | _ => cases accepted

theorem exists_word {value : Scalar} (accepted : Setting.count.accepts value) :
    ∃ number : Nat, value = .integer number := by
  cases value with
  | integer number =>
    have sign : 0 ≤ number := of_decide_eq_true (Bool.and_elim_left accepted)
    exact ⟨number.toNat, congrArg _ (Int.toNat_of_nonneg sign).symm⟩
  | _ => cases accepted

theorem accepts_standard (setting : Setting) : setting.accepts setting.standard := by
  cases setting <;> decide

theorem targetKey_home (setting : Setting) :
    Entry.targetKey setting.home.key = setting.home.key := by
  rw [Entry.targetKey, readPath?_home]
  exact setting.toLowercase_home

theorem ofValue_of_scalar? {value : Toml.Value} {scalar : Scalar} (single : scalar? value = some scalar)
    (origin : Option Text) : Entry.ofValue origin value = .scalar origin scalar := by
  cases value with
  | text text => cases single; rfl
  | integer number => cases single; rfl
  | _ => cases single

theorem PlainFor.accepts {setting : Setting} {fields : Toml.Fields} (plain : setting.PlainFor fields)
    {value : Scalar} (defined : setting.definedIn? fields = some value) : setting.accepts value := by
  obtain ⟨inner, opened, defined⟩ := Option.bind_eq_some_iff.mp defined
  obtain ⟨table, found, opened⟩ := Option.bind_eq_some_iff.mp opened
  obtain ⟨written, named, single⟩ := Option.bind_eq_some_iff.mp defined
  obtain ⟨_, same, plain⟩ := plain.of_lookup setting.targetKey_home found
  cases opened.symm.trans same
  obtain ⟨_, read, accepted⟩ := plain.of_lookup setting.toLowercase_name named
  cases single.symm.trans read
  exact accepted

theorem exists_opening_of_table? {value : Toml.Value} {fields : Toml.Fields}
    (opened : table? value = some fields) : ∃ opening, value = .table opening fields := by
  cases value with
  | table opening inner =>
    cases opened
    exact ⟨opening, rfl⟩
  | _ => cases opened

end Setting

/-! ## The tree -/

namespace Entry

variable {root : Entry} {setting : Setting} {fields : Toml.Fields}

/-- What stands at a setting. -/
def at? (root : Entry) (setting : Setting) : Option Entry :=
  (root.get? setting.home.key).bind (·.get? setting.name)

/-- A tree in which every setting has a single value. -/
def Holds (root : Entry) (values : Setting → Scalar) : Prop :=
  ∀ setting, ∃ origin, root.at? setting = some (.scalar origin (values setting))

theorem holds_defaults : Settings.defaults.Holds Setting.standard := by
  intro setting
  cases setting <;> exact ⟨none, rfl⟩

/-- A plain document changes the settings that it says something about. -/
theorem at?_layer (distinct : fields.Distinct) (plain : setting.PlainFor fields) (root : Entry)
    (origin : Option Text) :
    (root.layer (ofFields origin fields)).at? setting =
      match setting.definedIn? fields with
      | some value => some (.scalar origin value)
      | none => root.at? setting := by
  have sections : (ofFields origin fields).map Prod.fst = fields.map Prod.fst :=
    map_fst_ofFields origin fields
  rw [at?, get?_layer setting.readPath?_home setting.toLowercase_home (sections ▸ distinct.keys)
    (sections ▸ plain.keys), lookup_ofFields]
  cases found : fields.lookup setting.home.key with
  | none =>
    have silent : setting.definedIn? fields = none := by
      rw [Setting.definedIn?, found]
      rfl
    rw [silent]
    rfl
  | some value =>
    obtain ⟨inner, opened, plain⟩ := plain.of_lookup setting.targetKey_home found
    obtain ⟨opening, rfl⟩ := Setting.exists_opening_of_table? opened
    have said : setting.definedIn? fields = (inner.lookup setting.name).bind Setting.scalar? := by
      rw [Setting.definedIn?, found]
      rfl
    have keys : (ofFields origin inner).map Prod.fst = inner.map Prod.fst :=
      map_fst_ofFields origin inner
    dsimp only [Option.map_some, Option.bind_some, ofValue, overlay]
    rw [get?_merge setting.toLowercase_name (keys ▸ (distinct.lookup found).toFields.keys)
      (keys ▸ plain.keys), lookup_ofFields, said]
    cases named : inner.lookup setting.name with
    | none =>
      rw [at?]
      cases root.get? setting.home.key <;> rfl
    | some value =>
      obtain ⟨scalar, single, -⟩ := plain.of_lookup setting.toLowercase_name named
      have single : Setting.scalar? value = some scalar := single
      simp only [Option.map_some, Option.bind_some, single,
        Setting.ofValue_of_scalar? single origin, overlay]

/-- An override changes one setting. -/
theorem at?_setPath (root : Entry) (setting other : Setting) (value : Scalar) :
    (root.setPath (.scalar none value) setting.steps).at? other =
      if other = setting then some (.scalar none value) else root.at? other := by
  have set : root.setPath (.scalar none value) setting.steps =
      root.put setting.home.key
        (((root.get? setting.home.key).getD empty).set setting.name (.scalar none value)) := by
    rw [Setting.steps, setPath, setPath, setting.toLowercase_home]
    simp
  rw [set, at?, get?_put]
  by_cases home : other.home.key = setting.home.key
  · rw [if_pos home, Option.bind_some, get?_set, setting.toLowercase_name, at?, home]
    by_cases same : other.name = setting.name
    · rw [if_pos same, if_pos (Setting.eq_of_keys home same)]
      rfl
    · rw [if_neg same, if_neg fun equal => same (congrArg Setting.name equal)]
      cases root.get? setting.home.key <;> rfl
  · rw [if_neg home, if_neg fun equal => home (congrArg (·.home.key) equal), at?]

end Entry

end Numbering
