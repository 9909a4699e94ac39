import HandlerWiring.Proofs.Setting.Precedence
import HandlerWiring.Proofs.Text.Blank

/-!
# Settings that are resolved again

A setting is resolved from what the two sources hold under its own two keys, so no other key matters,
also if one dictionary is both sources. What it resolves to has no blanks around it and is accepted,
so it stands as it is: written under the local keys, the resolved values are resolved to themselves,
whatever the build-wide source holds.

A build-wide source that held something unusable may still hold it the second time, and is warned
about again. Nothing is said of the events here beyond those of a single setting.
-/

namespace HandlerWiring

/-! ## What is resolved is usable as it is -/

namespace Setting

variable {s : Setting} {value : String}

theorem trimmed_defaultValue (s : Setting) : Text.trimmed s.defaultValue = s.defaultValue := by
  cases s with
  | accessModifier => decide
  | className => decide
  | namespaceName => decide
  | parameterNames => decide
  | requireStatic => decide

/-- No setting accepts an empty text. -/
theorem ne_empty_of_accepts (accepted : s.accepts value = true) : value ≠ "" := by
  rintro rfl
  cases s with
  | accessModifier => exact absurd accepted (by decide)
  | className => exact absurd accepted (by decide)
  | namespaceName => exact absurd accepted (by decide)
  | parameterNames => exact absurd accepted (by decide)
  | requireStatic => exact absurd accepted (by decide)

/-- A usable value has no blanks around it. -/
theorem Usable.trimmed {held : Option String} (h : s.Usable held value) :
    Text.trimmed value = value := by
  obtain ⟨written, -, rfl⟩ := Option.map_eq_some_iff.mp h.1
  exact Text.trimmed_trimmed written

/-- An accepted value without blanks around it is usable wherever it is held. -/
theorem usable_self (trimmed : Text.trimmed value = value) (accepted : s.accepts value = true) :
    s.Usable (some value) value :=
  ⟨congrArg some trimmed, ne_empty_of_accepts accepted, accepted⟩

/-- What a setting resolves to has no blanks around it. -/
theorem trimmed_resolve (s : Setting) (sources : Sources) :
    Text.trimmed (s.resolve sources).value.value = (s.resolve sources).value.value := by
  rw [value_resolve]
  cases locally : (s.usable sources.locals s.localKey).value with
  | some value => exact (value_usable_eq_some_iff.mp locally).trimmed
  | none =>
    cases build : (s.usable sources.build s.buildKey).value with
    | some value => exact (value_usable_eq_some_iff.mp build).trimmed
    | none => exact s.trimmed_defaultValue

/-- A key that is not its own does not matter to a setting, even in a dictionary that is both
sources. -/
theorem resolve_insert_both {key : String} (notBuild : s.buildKey ≠ key) (notLocal : s.localKey ≠ key)
    (value : String) (d : Dictionary) :
    s.resolve ⟨d.insert key value, d.insert key value⟩ = s.resolve ⟨d, d⟩ :=
  resolve_congr (Dictionary.get?_insert_of_ne notBuild value d)
    (Dictionary.get?_insert_of_ne notLocal value d)

end Setting

/-! ## Feeding back -/

namespace Sources

/-- What all settings resolve to, each under its local key. -/
def fedBack (sources : Sources) : Dictionary :=
  .ofList ((Setting.resolveAll sources).value.map fun r => (r.setting.localKey, r.value))

/-- Each local key holds what its setting was resolved to. -/
theorem get?_fedBack (sources : Sources) (s : Setting) :
    sources.fedBack.get? s.localKey = some (s.resolve sources).value.value := by
  have entries : ((Setting.resolveAll sources).value.map fun r => (r.setting.localKey, r.value)) =
      Setting.all.map fun s => (s.localKey, (s.resolve sources).value.value) := by
    simp only [Setting.resolveAll, Setting.value_resolveEach, List.map_map, Function.comp_def,
      Setting.setting_resolve]
  rw [fedBack, entries]
  apply Dictionary.get?_ofList_of_mem
  · rw [List.map_map]
    exact Setting.nodup_keys.of_append_left
  · exact List.mem_map_of_mem s.mem_all

/-- Fed back, a setting resolves to the same value, now a local one. -/
theorem resolve_fedBack (sources : Sources) (build : Dictionary) (s : Setting) :
    (s.resolve ⟨build, sources.fedBack⟩).value =
      { (s.resolve sources).value with origin := .locally } := by
  have held : s.Usable (sources.fedBack.get? s.localKey) (s.resolve sources).value.value := by
    rw [get?_fedBack]
    exact Setting.usable_self (s.trimmed_resolve sources) (s.accepts_resolve sources)
  have taken : (s.resolve ⟨build, sources.fedBack⟩).value =
      ⟨s, (s.resolve sources).value.value, .locally⟩ :=
    Setting.resolve_locally held
  have own := congrArg (Resolved.mk · (s.resolve sources).value.value .locally)
    (s.setting_resolve sources)
  exact taken.trans own.symm

/-- The settings fed back are resolved to the same list, all of it local. -/
theorem resolveAll_fedBack (sources : Sources) (build : Dictionary) :
    (Setting.resolveAll ⟨build, sources.fedBack⟩).value =
      (Setting.resolveAll sources).value.map fun r => { r with origin := .locally } := by
  rw [Setting.resolveAll, Setting.resolveAll, Setting.value_resolveEach, Setting.value_resolveEach,
    List.map_map]
  exact List.map_congr_left fun s _ => sources.resolve_fedBack build s

theorem value_resolve_fedBack (sources : Sources) (build : Dictionary) (s : Setting) :
    (s.resolve ⟨build, sources.fedBack⟩).value.value = (s.resolve sources).value.value :=
  congrArg (·.value) (sources.resolve_fedBack build s)

theorem names_fedBack (sources : Sources) (build : Dictionary) :
    (Names.resolve ⟨build, sources.fedBack⟩).value = (Names.resolve sources).value := by
  rw [Names.value_resolve, value_resolve_fedBack, value_resolve_fedBack, value_resolve_fedBack,
    Names.value_resolve]

theorem strictness_fedBack (sources : Sources) (build : Dictionary) :
    (Strictness.resolve ⟨build, sources.fedBack⟩).value = (Strictness.resolve sources).value := by
  rw [Strictness.value_resolve, value_resolve_fedBack, value_resolve_fedBack,
    Strictness.value_resolve]

end Sources

/-- Sources that agree on the two keys of a setting give it the same value, origin and events,
whatever else they hold; the keys of all settings are different, so a value for another setting does
not matter even if one dictionary is both sources. Every resolved value has no blanks around it and
is accepted by its setting. All resolved values together, written under their local keys into an
empty dictionary, are resolved to themselves as local values beside any build-wide source, and so
are the names and the strictness that follow from them. -/
theorem settings_resolve_alone_and_again (sources : Sources) :
    (∀ (s : Setting) (sources' : Sources),
      sources.build.get? s.buildKey = sources'.build.get? s.buildKey →
      sources.locals.get? s.localKey = sources'.locals.get? s.localKey →
        s.resolve sources = s.resolve sources') ∧
      (∀ s s' : Setting, s ≠ s' → ∀ key ∈ [s'.buildKey, s'.localKey], ∀ value d,
        s.resolve ⟨d.insert key value, d.insert key value⟩ = s.resolve ⟨d, d⟩) ∧
      (∀ s : Setting,
        let value := (s.resolve sources).value.value
        Text.trimmed value = value ∧ s.accepts value = true) ∧
      ∀ build : Dictionary,
        let again : Sources := ⟨build, sources.fedBack⟩
        (Setting.resolveAll again).value =
          (Setting.resolveAll sources).value.map (fun r => { r with origin := .locally }) ∧
        (Names.resolve again).value = (Names.resolve sources).value ∧
        (Strictness.resolve again).value = (Strictness.resolve sources).value := by
  refine ⟨?_, ?_, ?_, ?_⟩
  · intro s sources' build locals
    exact Setting.resolve_congr build locals
  · intro s s' different key among value d
    simp only [List.mem_cons, List.not_mem_nil, or_false] at among
    rcases among with rfl | rfl
    · exact Setting.resolve_insert_both (Setting.buildKey_injective.ne different)
        (Setting.localKey_ne_buildKey s s') value d
    · exact Setting.resolve_insert_both (Setting.localKey_ne_buildKey s' s).symm
        (Setting.localKey_injective.ne different) value d
  · intro s value
    exact ⟨s.trimmed_resolve sources, s.accepts_resolve sources⟩
  · intro build again
    exact ⟨sources.resolveAll_fedBack build, sources.names_fedBack build,
      sources.strictness_fedBack build⟩

/-- A padded build-wide namespace, an unusable local one and a level of matching in capitals: beside
another build-wide source the second round finds what the first one did. -/
theorem settings_resolve_alone_and_again_sample :
    let build := Dictionary.empty.insert Setting.namespaceName.buildKey " App.Wiring "
    let locals := (Dictionary.empty.insert Setting.namespaceName.localKey "../up").insert
      Setting.parameterNames.localKey "Ignore_Case"
    let other := locals.insert Setting.className.localKey "Other"
    let again := (Sources.mk build locals).fedBack
    locals.get? Setting.namespaceName.localKey = other.get? Setting.namespaceName.localKey ∧
      Setting.namespaceName.resolve ⟨build, locals⟩ =
        Setting.namespaceName.resolve ⟨build, other⟩ ∧
      (Setting.resolveAll ⟨build.insert Setting.namespaceName.buildKey "Late", again⟩).value =
        [⟨.accessModifier, "internal", .locally⟩,
          ⟨.className, "CQRSServiceExtensions", .locally⟩,
          ⟨.namespaceName, "App.Wiring", .locally⟩,
          ⟨.parameterNames, "Ignore_Case", .locally⟩,
          ⟨.requireStatic, "true", .locally⟩] := by
  intro build locals other again
  obtain ⟨alone, -, -, back⟩ := settings_resolve_alone_and_again ⟨build, locals⟩
  have agree : locals.get? Setting.namespaceName.localKey =
      other.get? Setting.namespaceName.localKey := by decide
  refine ⟨agree, alone .namespaceName ⟨build, other⟩ rfl agree, ?_⟩
  have resolved : (Setting.resolveAll ⟨build, locals⟩).value =
      [⟨.accessModifier, "internal", .default⟩,
        ⟨.className, "CQRSServiceExtensions", .default⟩,
        ⟨.namespaceName, "App.Wiring", .buildWide⟩,
        ⟨.parameterNames, "Ignore_Case", .locally⟩,
        ⟨.requireStatic, "true", .default⟩] := by decide +kernel
  obtain ⟨same, -⟩ := back (build.insert Setting.namespaceName.buildKey "Late")
  exact same.trans (congrArg _ resolved)

end HandlerWiring
