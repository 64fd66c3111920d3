import Numbering.Proofs.Settings.Layers
import Numbering.Proofs.Settings.Reading

/-! # Loading settings

Each setting has a value of its own after everything is merged: its override, or what the last file
that sets it says, or the default (`effective`). Files and overrides may be added in any order, and
what a file holds besides the settings does not matter. Only the letters that come out in the end are
looked at, so letters that would not do may stand in a file as long as something goes over them
(`build_effective`).
-/

namespace Numbering

namespace Settings

/-! ## Calls -/

inductive Call
  | file (layer : Layer)
  | override (key : Text) (value : Scalar)
  deriving DecidableEq, Repr

namespace Call

/-- A plain file, or an override of one of the settings with a value of its type. -/
def Plain : Call → Prop
  | .file layer => layer.Plain
  | .override key value => ∃ setting : Setting, key = setting.key ∧ setting.accepts value

instance (call : Call) : Decidable call.Plain :=
  match call with
  | .file layer => inferInstanceAs (Decidable layer.Plain)
  | .override key value =>
    inferInstanceAs (Decidable (∃ setting : Setting, key = setting.key ∧ setting.accepts value))

def layer? : Call → Option Layer
  | .file layer => some layer
  | .override _ _ => none

/-- The override of a call, by the steps of its key. -/
def override? : Call → Option (List PathStep × Scalar)
  | .file _ => none
  | .override key value => (PathStep.readPath? key).map (·, value)

def fileValue? (setting : Setting) (call : Call) : Option Scalar :=
  call.layer?.bind (Layer.value? setting)

def overrideValue? (setting : Setting) : Call → Option Scalar
  | .file _ => none
  | .override key value => if key = setting.key then some value else none

namespace Plain

variable {call : Call} {layer : Layer} {override : List PathStep × Scalar} {setting : Setting}
  {value : Scalar}

theorem of_file (plain : call.Plain) (file : call.layer? = some layer) : layer.Plain := by
  cases call with
  | file layer =>
    cases file
    exact plain
  | override key value => cases file

theorem exists_steps (plain : call.Plain) (set : call.override? = some override) :
    ∃ setting : Setting, override.1 = setting.steps := by
  cases call with
  | file layer => cases set
  | override key value =>
    obtain ⟨setting, rfl, -⟩ := plain
    rw [override?, setting.readPath?_key] at set
    cases set
    exact ⟨setting, rfl⟩

/-- Whether an override is one of a setting can be told by its key as well as by its steps. -/
theorem bind_overrideValue? (plain : call.Plain) (setting : Setting) :
    call.override?.bind (Settings.overrideValue? setting) = call.overrideValue? setting := by
  cases call with
  | file layer => rfl
  | override key value =>
    obtain ⟨target, rfl, -⟩ := plain
    rw [override?, target.readPath?_key]
    by_cases same : target = setting
    · subst same
      rw [overrideValue?, if_pos rfl]
      exact if_pos rfl
    · rw [overrideValue?, if_neg fun equal => same (Setting.eq_of_key equal)]
      exact if_neg fun equal => same (Setting.eq_of_steps equal)

theorem accepts_override (plain : call.Plain) (set : call.overrideValue? setting = some value) :
    setting.accepts value := by
  cases call with
  | file layer => cases set
  | override key given =>
    obtain ⟨target, rfl, accepted⟩ := plain
    rw [overrideValue?] at set
    split at set
    case isTrue same =>
      cases set
      obtain rfl := Setting.eq_of_key same
      exact accepted
    case isFalse => cases set

theorem accepts_file (plain : call.Plain) (set : call.fileValue? setting = some value) :
    setting.accepts value := by
  obtain ⟨layer, file, set⟩ := Option.bind_eq_some_iff.mp set
  exact (plain.of_file file).accepts set

end Plain

end Call

/-- The value of a setting after calls in order. -/
def effective (calls : List Call) (setting : Setting) : Scalar :=
  (latest (Call.overrideValue? setting) calls).getD
    ((latest (Call.fileValue? setting) calls).getD setting.standard)

/-- A missing optional file sets nothing. -/
theorem effective_insert (before after : List Call) (name : Text) :
    effective (before ++ .file ⟨name, none, false⟩ :: after) = effective (before ++ after) := by
  funext setting
  rw [effective, effective, latest_insert rfl, latest_insert rfl]

/-- A file that says the same of the settings as another may stand in its place. -/
theorem effective_exchange {file other : Layer}
    (same : ∀ setting, Layer.value? setting other = Layer.value? setting file)
    (before after : List Call) :
    effective (before ++ .file other :: after) = effective (before ++ .file file :: after) := by
  funext setting
  have written : Call.fileValue? setting (.file other) = Call.fileValue? setting (.file file) :=
    same setting
  have silent : Call.overrideValue? setting (.file other) =
      Call.overrideValue? setting (.file file) := rfl
  rw [effective, effective, latest_exchange written, latest_exchange silent]

namespace Loader

def call (loader : Loader) : Call → Except SettingsError Loader
  | .file layer => .ok (loader.withLayer layer)
  | .override key value => loader.setOverride key value

/-- The loader after calls in order. -/
def ofCalls (calls : List Call) : Except SettingsError Loader :=
  calls.foldlM call start

variable {calls : List Call}

/-- Calls collect files and overrides apart. -/
theorem foldlM_call_of_plain (plain : ∀ call ∈ calls, call.Plain) (loader : Loader) :
    calls.foldlM call loader =
      .ok ⟨loader.layers ++ calls.filterMap Call.layer?,
        loader.overrides ++ calls.filterMap Call.override?⟩ := by
  induction calls generalizing loader with
  | nil =>
    rw [List.filterMap_nil, List.filterMap_nil, List.append_nil, List.append_nil]
    rfl
  | cons call rest ih =>
    obtain ⟨first, others⟩ := List.forall_mem_cons.mp plain
    cases call with
    | file layer =>
      rw [List.foldlM_cons]
      change rest.foldlM Loader.call (loader.withLayer layer) = _
      rw [ih others, withLayer, List.append_assoc]
      rfl
    | override key value =>
      obtain ⟨setting, rfl, -⟩ := first
      have set : loader.call (.override setting.key value) =
          .ok { loader with overrides := loader.overrides ++ [(setting.steps, value)] } := by
        rw [call, setOverride, setting.readPath?_key]
      have listed : (Call.override setting.key value).override? = some (setting.steps, value) := by
        rw [Call.override?, setting.readPath?_key]
        rfl
      rw [List.foldlM_cons, set]
      change rest.foldlM Loader.call _ = _
      rw [ih others, List.filterMap_cons_none rfl, List.filterMap_cons_some listed,
        List.append_assoc]
      rfl

/-- The tree in the end holds the value of each setting after the calls. -/
theorem merged_of_plain (plain : ∀ call ∈ calls, call.Plain) :
    ∃ loader root, ofCalls calls = .ok loader ∧ loader.merged = .ok root ∧
      root.Holds (effective calls) := by
  have files : ∀ layer ∈ calls.filterMap Call.layer?, layer.Plain := by
    intro layer listed
    obtain ⟨call, member, file⟩ := List.mem_filterMap.mp listed
    exact (plain call member).of_file file
  have known : ∀ override ∈ calls.filterMap Call.override?,
      ∃ setting : Setting, override.1 = setting.steps := by
    intro override listed
    obtain ⟨call, member, set⟩ := List.mem_filterMap.mp listed
    exact (plain call member).exists_steps set
  have overridden (setting : Setting) :
      latest (Settings.overrideValue? setting) (calls.filterMap Call.override?) =
        latest (Call.overrideValue? setting) calls := by
    rw [latest_filterMap]
    exact latest_congr fun call member => (plain call member).bind_overrideValue? setting
  obtain ⟨layered, merged, laid⟩ := foldlM_addLayer_of_plain files Entry.holds_defaults
  have holds := foldl_setPath_of_steps known laid
  simp only [overridden, latest_filterMap] at holds
  refine ⟨_, _, foldlM_call_of_plain plain start, ?_, holds⟩
  rw [Loader.merged]
  simp only [start, List.nil_append, merged]
  rfl

end Loader

theorem accepts_effective {calls : List Call} (plain : ∀ call ∈ calls, call.Plain)
    (setting : Setting) : setting.accepts (effective calls setting) := by
  rw [effective]
  cases overridden : latest (Call.overrideValue? setting) calls with
  | some value =>
    obtain ⟨call, member, set⟩ := exists_mem_of_latest overridden
    exact (plain call member).accepts_override set
  | none =>
    cases written : latest (Call.fileValue? setting) calls with
    | some value =>
      obtain ⟨call, member, set⟩ := exists_mem_of_latest written
      exact (plain call member).accepts_file set
    | none => exact setting.accepts_standard

theorem exists_configuration {values : Setting → Scalar}
    (accepts : ∀ setting : Setting, setting.accepts (values setting)) :
    ∃ configuration : Configuration, configuration.value = values := by
  obtain ⟨letters, lettersSet⟩ := Setting.exists_text (accepts .letters) (by decide)
  obtain ⟨count, countSet⟩ := Setting.exists_word (accepts .count)
  obtain ⟨ellipsis, ellipsisSet⟩ := Setting.exists_text (accepts .ellipsis) (by decide)
  obtain ⟨separator, separatorSet⟩ := Setting.exists_text (accepts .separator) (by decide)
  obtain ⟨marker, markerSet⟩ := Setting.exists_text (accepts .marker) (by decide)
  refine ⟨⟨letters, ⟨count, ellipsis, separator⟩, marker⟩, ?_⟩
  funext setting
  cases setting with
  | letters => exact lettersSet.symm
  | count => exact countSet.symm
  | ellipsis => exact ellipsisSet.symm
  | separator => exact separatorSet.symm
  | marker => exact markerSet.symm

/-- Whatever the calls, the values of the settings after them decide what is built. -/
theorem build_of_plain {calls : List Call} (plain : ∀ call ∈ calls, call.Plain) :
    ∃ loader root, ∃ configuration : Configuration,
      Loader.ofCalls calls = .ok loader ∧ loader.merged = .ok root ∧ root.Holds (effective calls) ∧
      configuration.value = effective calls ∧ loader.build = configuration.checked := by
  obtain ⟨loader, root, collected, merged, holds⟩ := Loader.merged_of_plain plain
  obtain ⟨configuration, same⟩ := exists_configuration (accepts_effective plain)
  refine ⟨loader, root, configuration, collected, merged, holds, same, ?_⟩
  rw [← same] at holds
  rw [Loader.build, merged]
  change (ofEntry root >>= Configuration.checked) = _
  rw [ofEntry_of_holds holds]
  rfl

/-- Calls that leave the same values build the same. -/
theorem bind_build_congr {calls others : List Call} (plain : ∀ call ∈ calls, call.Plain)
    (plainOthers : ∀ call ∈ others, call.Plain) (same : effective others = effective calls) :
    (Loader.ofCalls others >>= Loader.build) = (Loader.ofCalls calls >>= Loader.build) := by
  obtain ⟨loader, -, configuration, collected, -, -, value, built⟩ := build_of_plain plain
  obtain ⟨loader', -, configuration', collected', -, -, value', built'⟩ := build_of_plain plainOthers
  have equal : configuration' = configuration :=
    Configuration.eq_of_value fun setting => by rw [value', value, same]
  rw [collected, collected']
  change loader'.build = loader.build
  rw [built', built, equal]

/-- Loading, for every order of the calls. The tree in the end holds the value of each setting: its
override, or what the last file that sets it says, or the default. Building fails just when the
letters among these values do not make an alphabet, with that fault, and otherwise gives the values
and a host with that alphabet. A missing optional file changes nothing, and neither does anything
that a file holds besides the settings. -/
theorem build_effective {calls : List Call} (plain : ∀ call ∈ calls, call.Plain) :
    ∃ loader root, ∃ configuration : Configuration,
      Loader.ofCalls calls = .ok loader ∧ loader.merged = .ok root ∧ root.Holds (effective calls) ∧
      configuration.value = effective calls ∧
      (∀ error, loader.build = .error error ↔
        ∃ fault, Alphabet.ofLetters configuration.letters = .error fault ∧
          error = .alphabet fault) ∧
      (∀ built, loader.build = .ok built ↔
        built = configuration ∧ ∃ alphabet,
          Alphabet.ofLetters configuration.letters = .ok alphabet ∧
            built.profile = .ok ⟨alphabet, configuration.shape⟩) ∧
      (∀ before after name, calls = before ++ .file ⟨name, none, false⟩ :: after →
        (Loader.ofCalls (before ++ after) >>= Loader.build) = loader.build) ∧
      ∀ before after file other, calls = before ++ .file file :: after → other.Plain →
        (∀ setting, Layer.value? setting other = Layer.value? setting file) →
          (Loader.ofCalls (before ++ .file other :: after) >>= Loader.build) = loader.build := by
  obtain ⟨loader, root, configuration, collected, merged, holds, value, built⟩ :=
    build_of_plain plain
  have build (others : List Call) (plainOthers : ∀ call ∈ others, call.Plain)
      (same : effective others = effective calls) :
      (Loader.ofCalls others >>= Loader.build) = loader.build := by
    rw [bind_build_congr plain plainOthers same, collected]
    rfl
  refine ⟨loader, root, configuration, collected, merged, holds, value, ?fails, ?succeeds, ?absent,
    ?unknown⟩
  case fails =>
    intro error
    rw [built, Configuration.checked, Configuration.alphabet]
    cases Alphabet.ofLetters configuration.letters <;> simp [eq_comm]
  case succeeds =>
    intro built'
    rw [built, Configuration.checked, Configuration.alphabet]
    cases letters : Alphabet.ofLetters configuration.letters with
    | error fault => simp
    | ok alphabet =>
      have profile : configuration.profile = .ok ⟨alphabet, configuration.shape⟩ := by
        rw [Configuration.profile, Configuration.alphabet, letters]
      constructor
      · intro same
        cases same
        exact ⟨rfl, alphabet, rfl, profile⟩
      · rintro ⟨rfl, -⟩
        rfl
  case absent =>
    rintro before after name rfl
    obtain ⟨early, late⟩ := List.forall_mem_append.mp plain
    have late := (List.forall_mem_cons.mp late).2
    exact build _ (List.forall_mem_append.mpr ⟨early, late⟩) (effective_insert before after name).symm
  case unknown =>
    rintro before after file other rfl plainOther same
    obtain ⟨early, late⟩ := List.forall_mem_append.mp plain
    have late := (List.forall_mem_cons.mp late).2
    have plainOthers : ∀ call ∈ before ++ .file other :: after, call.Plain :=
      List.forall_mem_append.mpr ⟨early, List.forall_mem_cons.mpr ⟨plainOther, late⟩⟩
    exact build _ plainOthers (effective_exchange same before after)

/-- Letters that make no alphabet in a file, and an override before it. -/
def overriddenLetters : List Call :=
  [.override "alphabet.letters".toList (.text ['x', 'y']),
    .file ⟨['f'], some "x=1\nalphabet.letters='aa'\npreview.cursor_count=2".toList, true⟩,
    .file ⟨['g'], none, false⟩]

/-- The override goes over the letters, and the count of the file stays. -/
theorem build_effective_overridden :
    (∀ call ∈ overriddenLetters, call.Plain) ∧
      ∃ loader configuration, Loader.ofCalls overriddenLetters = .ok loader ∧
        loader.build = .ok configuration ∧
        configuration.letters = ['x', 'y'] ∧ configuration.shape.count = 2 := by
  have plain : ∀ call ∈ overriddenLetters, call.Plain := by decide +kernel
  obtain ⟨loader, root, configuration, collected, -, -, value, -, succeeds, -⟩ :=
    build_effective plain
  have letters : configuration.letters = ['x', 'y'] :=
    Scalar.text.inj ((congrFun value .letters).trans (by decide +kernel))
  have count : configuration.shape.count = 2 :=
    Int.ofNat.inj (Scalar.integer.inj ((congrFun value .count).trans (by decide +kernel)))
  obtain ⟨alphabet, made⟩ : ∃ alphabet, Alphabet.ofLetters ['x', 'y'] = .ok alphabet :=
    ⟨⟨['x', 'y'], by decide, List.all_eq_true.mp (by decide), by decide⟩, by decide +kernel⟩
  have profile : configuration.profile = .ok ⟨alphabet, configuration.shape⟩ := by
    rw [Configuration.profile, Configuration.alphabet, letters, made]
  exact ⟨plain, loader, configuration, collected,
    (succeeds configuration).mpr ⟨rfl, alphabet, letters ▸ made, profile⟩, letters, count⟩

end Settings

end Numbering
