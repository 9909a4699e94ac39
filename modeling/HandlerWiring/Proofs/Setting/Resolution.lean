import Mathlib.Data.List.Nodup
import HandlerWiring.Proofs.Dictionary
import HandlerWiring.Setting.Resolution

/-!
# What settings resolve to

A setting looks at one key of each source: two pairs of sources that hold the same under these two
keys resolve it alike, reports included. No two of these keys are the same, so it may be one source
that is looked at twice. Whatever the sources hold, the value it resolves to is one
that the setting accepts, so the readings of the two settings for the strictness never fall back on
anything.
-/

namespace HandlerWiring

namespace Setting

/-! ## Keys -/

theorem mem_all (s : Setting) : s ∈ all := by cases s <;> decide

/-- The keys of all settings in both sources are different. -/
theorem nodup_keys : (all.map localKey ++ all.map buildKey).Nodup := by decide

theorem localKey_injective : Function.Injective localKey := fun s s' same =>
  List.inj_on_of_nodup_map nodup_keys.of_append_left s.mem_all s'.mem_all same

theorem buildKey_injective : Function.Injective buildKey := fun s s' same =>
  List.inj_on_of_nodup_map nodup_keys.of_append_right s.mem_all s'.mem_all same

theorem localKey_ne_buildKey (s s' : Setting) : s.localKey ≠ s'.buildKey := by
  intro same
  have apart := List.disjoint_of_nodup_append nodup_keys
  exact apart (List.mem_map_of_mem s.mem_all) (same ▸ List.mem_map_of_mem s'.mem_all)

/-! ## Values -/

/-- The default of a setting is usable. -/
theorem accepts_defaultValue (s : Setting) : s.accepts s.defaultValue = true := by
  cases s with
  | accessModifier => rfl
  | className => rfl
  | namespaceName => rfl
  | parameterNames => rfl
  | requireStatic => rfl

/-- The usable value under a key is the one that is there, if the setting accepts it. -/
theorem value_usable (s : Setting) (source : Dictionary) (key : String) :
    (s.usable source key).value = (present? source key).filter s.accepts := by
  unfold usable
  cases present? source key with
  | none => rfl
  | some value =>
    simp only [Option.filter_some]
    split
    · rfl
    · rfl

/-- A usable value is accepted. -/
theorem accepts_of_usable {s : Setting} {source : Dictionary} {key value : String}
    (h : (s.usable source key).value = some value) : s.accepts value = true := by
  rw [value_usable, Option.filter_eq_some_iff] at h
  exact h.2

/-- The value that a setting resolves to: the local one, else the build-wide one, else the
default. -/
theorem value_resolve (s : Setting) (sources : Sources) :
    (s.resolve sources).value.value =
      ((s.usable sources.locals s.localKey).value.or
        (s.usable sources.build s.buildKey).value).getD s.defaultValue := by
  simp only [resolve, Logged.value_bind]
  cases (s.usable sources.locals s.localKey).value with
  | some value => rfl
  | none =>
    cases (s.usable sources.build s.buildKey).value with
    | some value => rfl
    | none => rfl

/-- The value that a setting resolves to is one it accepts. -/
theorem accepts_resolve (s : Setting) (sources : Sources) :
    s.accepts (s.resolve sources).value.value = true := by
  rw [value_resolve]
  cases locally : (s.usable sources.locals s.localKey).value with
  | some value => exact accepts_of_usable locally
  | none =>
    cases build : (s.usable sources.build s.buildKey).value with
    | some value => exact accepts_of_usable build
    | none => exact s.accepts_defaultValue

/-- What is resolved is the value of the setting that was asked for. -/
theorem setting_resolve (s : Setting) (sources : Sources) :
    (s.resolve sources).value.setting = s := by
  simp only [resolve, Logged.value_bind]
  cases (s.usable sources.locals s.localKey).value with
  | some value => rfl
  | none =>
    cases (s.usable sources.build s.buildKey).value with
    | some value => rfl
    | none => rfl

/-- What is usable under a key depends on what the key holds. -/
theorem usable_congr {s : Setting} {source source' : Dictionary} {key : String}
    (same : source.get? key = source'.get? key) : s.usable source key = s.usable source' key := by
  rw [usable, usable, present?, present?, same]

/-- A setting is resolved alike from sources that hold the same under its two keys. -/
theorem resolve_congr {s : Setting} {sources sources' : Sources}
    (build : sources.build.get? s.buildKey = sources'.build.get? s.buildKey)
    (locals : sources.locals.get? s.localKey = sources'.locals.get? s.localKey) :
    s.resolve sources = s.resolve sources' := by
  rw [resolve, resolve, usable_congr build, usable_congr locals]

/-- The settings are resolved one by one. -/
theorem value_resolveEach (sources : Sources) (settings : List Setting) :
    (resolveEach sources settings).value = settings.map fun s => (s.resolve sources).value := by
  induction settings with
  | nil => rfl
  | cons s rest ih => exact congrArg ((s.resolve sources).value :: ·) ih

end Setting

/-- The sources hold the same under the keys of all settings. -/
structure Sources.SameSettings (sources sources' : Sources) : Prop where
  build (s : Setting) : sources.build.get? s.buildKey = sources'.build.get? s.buildKey
  locals (s : Setting) : sources.locals.get? s.localKey = sources'.locals.get? s.localKey

namespace Sources.SameSettings

variable {sources sources' : Sources}

/-- No setting notices a build-wide key that is not its own. -/
theorem insertBuild {key : String} (foreign : ∀ s : Setting, s.buildKey ≠ key) (value : String)
    (sources : Sources) :
    sources.SameSettings { sources with build := sources.build.insert key value } where
  build s := (Dictionary.get?_insert_of_ne (foreign s) value sources.build).symm
  locals _ := rfl

/-- No setting notices a local key that is not its own. -/
theorem insertLocal {key : String} (foreign : ∀ s : Setting, s.localKey ≠ key) (value : String)
    (sources : Sources) :
    sources.SameSettings { sources with locals := sources.locals.insert key value } where
  build _ := rfl
  locals s := (Dictionary.get?_insert_of_ne (foreign s) value sources.locals).symm

theorem resolve (same : sources.SameSettings sources') (s : Setting) :
    s.resolve sources = s.resolve sources' :=
  Setting.resolve_congr (same.build s) (same.locals s)

theorem names (same : sources.SameSettings sources') :
    Names.resolve sources = Names.resolve sources' := by
  rw [Names.resolve, Names.resolve, same.resolve, same.resolve, same.resolve]

theorem strictness (same : sources.SameSettings sources') :
    Strictness.resolve sources = Strictness.resolve sources' := by
  rw [Strictness.resolve, Strictness.resolve, same.resolve, same.resolve]

end Sources.SameSettings

/-- The names are what their settings resolve to. -/
theorem Names.value_resolve (sources : Sources) :
    (Names.resolve sources).value =
      ⟨(Setting.accessModifier.resolve sources).value.value,
        (Setting.className.resolve sources).value.value,
        (Setting.namespaceName.resolve sources).value.value⟩ :=
  rfl

/-- The strictness is read off what its settings resolve to. -/
theorem Strictness.value_resolve (sources : Sources) :
    (Strictness.resolve sources).value =
      { requireStatic :=
          Text.sameIgnoringCase (Setting.requireStatic.resolve sources).value.value "true"
        parameterNames :=
          (NameMatching.parse? (Setting.parameterNames.resolve sources).value.value).getD .off } :=
  rfl

/-- The resolved way to compare parameter names is the one that the resolved value names. -/
theorem Strictness.parse?_parameterNames (sources : Sources) :
    NameMatching.parse? (Setting.parameterNames.resolve sources).value.value =
      some (Strictness.resolve sources).value.parameterNames := by
  have named := Setting.parameterNames.accepts_resolve sources
  rw [Setting.accepts, Option.isSome_iff_exists] at named
  obtain ⟨level, parsed⟩ := named
  rw [parsed]
  simp only [Strictness.resolve, Logged.value_bind, Logged.value_pure, parsed, Option.getD_some]

/-- Extension points have to be static if the resolved value says so, in whatever case. -/
theorem Strictness.requireStatic_resolve (sources : Sources) :
    (Strictness.resolve sources).value.requireStatic =
      Text.sameIgnoringCase (Setting.requireStatic.resolve sources).value.value "true" :=
  rfl

end HandlerWiring
