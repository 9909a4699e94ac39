import HandlerWiring.Proofs.Setting.Precedence

/-!
# What a warning says is kept

A value that a setting does not accept is ignored with a warning, which names the key, the value and
the value that is kept instead. The source that the value comes from is the only one that is looked
at when the warning is put together, so what it says is kept is the default. Of a local value that is
ignored, this is true exactly if there is no usable build-wide value other than the default;
otherwise the build-wide value is kept and the warning is wrong about it.

Of a build-wide value that is ignored nothing is said here beyond its warning: a local value may
still take the place of what is kept.
-/

namespace HandlerWiring

namespace Setting

/-- The warning that a value under a key is ignored and another one kept. -/
def ignoring (s : Setting) (key value kept : String) : Event :=
  ⟨.warn, "cqrsgen_decl::config",
    "ignoring unrecognized " ++ s.name ++ " value; keeping " ++ kept,
    [("key", .quoted key), ("value", .quoted value)]⟩

/-- What a key holds is ignored by a setting as a value: without the blanks around it, it is that
value, which is not empty and which the setting does not accept. -/
def Unusable (s : Setting) (held : Option String) (value : String) : Prop :=
  held.map Text.trimmed = some value ∧ value ≠ "" ∧ s.accepts value = false

instance (s : Setting) (held : Option String) (value : String) : Decidable (s.Unusable held value) :=
  inferInstanceAs (Decidable (_ ∧ _ ∧ _))

variable {s : Setting} {source : Dictionary} {sources : Sources} {key value : String} {e : Event}

/-! ## Warnings -/

/-- The warnings of a setting differ if their keys, the ignored values or the kept ones do. -/
theorem ignoring_inj {key' value' kept kept' : String} :
    s.ignoring key value kept = s.ignoring key' value' kept' ↔
      key = key' ∧ value = value' ∧ kept = kept' := by
  constructor
  · intro same
    rw [ignoring, ignoring, Event.mk.injEq, String.append_right_inj] at same
    obtain ⟨-, -, kept, fields⟩ := same
    obtain ⟨first, rest⟩ := List.cons.inj fields
    obtain ⟨second, -⟩ := List.cons.inj rest
    exact ⟨Datum.quoted.inj (Prod.mk.inj first).2, Datum.quoted.inj (Prod.mk.inj second).2, kept⟩
  · rintro ⟨rfl, rfl, rfl⟩
    rfl

theorem present?_eq_some_iff :
    present? source key = some value ↔
      (source.get? key).map Text.trimmed = some value ∧ value ≠ "" := by
  rw [present?, Option.filter_eq_some_iff, Bool.not_eq_true', String.isEmpty_eq_false_iff]

/-- Looking at a key warns of what it holds if that is ignored, and of nothing else. -/
theorem mem_events_usable :
    e ∈ (s.usable source key).events ↔
      ∃ value, s.Unusable (source.get? key) value ∧ e = s.ignoring key value s.defaultValue := by
  simp only [Unusable, ← and_assoc, ← present?_eq_some_iff]
  unfold usable
  cases present? source key with
  | none =>
    constructor
    · rintro ⟨⟩
    · rintro ⟨_, ⟨⟨⟩, -⟩, -⟩
  | some held =>
    cases accepted : s.accepts held with
    | true =>
      simp only [accepted, if_true, Logged.events_pure, List.not_mem_nil, false_iff, not_exists]
      rintro _ ⟨⟨⟨⟩, refused⟩, -⟩
      rw [accepted] at refused
      cases refused
    | false =>
      have told : s.ignored key held = s.ignoring key held s.defaultValue := rfl
      simp only [accepted, Bool.false_eq_true, if_false, Logged.events_bind, Logged.events_report,
        Logged.events_pure, List.append_nil, List.mem_singleton, told]
      constructor
      · rintro rfl
        exact ⟨held, ⟨rfl, accepted⟩, rfl⟩
      · rintro ⟨_, ⟨⟨⟩, -⟩, rfl⟩
        rfl

/-- Resolving a setting looks at the build-wide key and then at the local one. -/
theorem events_resolve (s : Setting) (sources : Sources) :
    (s.resolve sources).events =
      (s.usable sources.build s.buildKey).events ++
        (s.usable sources.locals s.localKey).events := by
  simp only [resolve, Logged.events_bind, Logged.events_pure, List.append_nil]

/-- Resolving a setting warns of its local value exactly if that is ignored, and says that the
default is kept. -/
theorem ignoring_localKey_mem_iff {kept : String} :
    s.ignoring s.localKey value kept ∈ (s.resolve sources).events ↔
      s.Unusable (sources.locals.get? s.localKey) value ∧ kept = s.defaultValue := by
  rw [events_resolve, List.mem_append, mem_events_usable, mem_events_usable]
  simp only [ignoring_inj, localKey_ne_buildKey s s, false_and, and_false, exists_false, false_or,
    true_and]
  constructor
  · rintro ⟨_, unusable, rfl, rfl⟩
    exact ⟨unusable, rfl⟩
  · rintro ⟨unusable, rfl⟩
    exact ⟨value, unusable, rfl, rfl⟩

/-- What is ignored is not usable. -/
theorem Unusable.not_usable {held : Option String} (h : s.Unusable held value) (other : String) :
    ¬s.Usable held other := by
  rintro ⟨holds, -, accepted⟩
  obtain rfl := Option.some.inj (h.1.symm.trans holds)
  rw [h.2.2] at accepted
  cases accepted

end Setting

/-- A setting warns of its local value exactly if that is ignored, and always says that the default
is kept. What is kept is the usable build-wide value, and the default only without one. So the
warning names what is kept exactly if no usable build-wide value differs from the default. -/
theorem ignored_local_told_as_default (s : Setting) (sources : Sources) :
    let locally := sources.locals.get? s.localKey
    let build := sources.build.get? s.buildKey
    let resolved := (s.resolve sources).value
    let told (value kept : String) :=
      s.ignoring s.localKey value kept ∈ (s.resolve sources).events
    (∀ value kept, told value kept ↔ s.Unusable locally value ∧ kept = s.defaultValue) ∧
      ∀ value, s.Unusable locally value →
        (∀ used, s.Usable build used → resolved = ⟨s, used, .buildWide⟩) ∧
        ((∀ used, ¬s.Usable build used) → resolved = ⟨s, s.defaultValue, .default⟩) ∧
        ∀ kept, told value kept →
          (kept = resolved.value ↔ ∀ used, s.Usable build used → used = s.defaultValue) := by
  intro locally build resolved told
  refine ⟨fun value kept => Setting.ignoring_localKey_mem_iff, fun value unusable => ?_⟩
  have passedOver : ∀ other, ¬s.Usable locally other := unusable.not_usable
  have buildWide (used : String) (usable : s.Usable build used) :
      resolved = ⟨s, used, .buildWide⟩ := Setting.resolve_buildWide passedOver usable
  have fallsBack (unusable : ∀ used, ¬s.Usable build used) :
      resolved = ⟨s, s.defaultValue, .default⟩ := Setting.resolve_default passedOver unusable
  refine ⟨buildWide, fallsBack, fun kept said => ?_⟩
  obtain ⟨-, rfl⟩ := Setting.ignoring_localKey_mem_iff.mp said
  constructor
  · intro same used usable
    rw [buildWide used usable] at same
    exact same.symm
  · intro same
    by_cases usable : ∃ used, s.Usable build used
    · obtain ⟨used, usable⟩ := usable
      rw [buildWide used usable]
      exact (same used usable).symm
    · rw [fallsBack (not_exists.mp usable)]

/-- The namespace that is kept when a local one is ignored is not the one in the warning. -/
theorem ignored_local_told_as_default_sample :
    let s := Setting.namespaceName
    let sources : Sources :=
      ⟨Dictionary.empty.insert s.buildKey "App.Wiring",
        Dictionary.empty.insert s.localKey "../Wiring"⟩
    s.ignoring s.localKey "../Wiring" s.defaultValue ∈ (s.resolve sources).events ∧
      (s.resolve sources).value = ⟨s, "App.Wiring", .buildWide⟩ ∧
      s.defaultValue ≠ (s.resolve sources).value.value ∧
      s.ignoring s.localKey "../Wiring" "App.Wiring" ∉ (s.resolve sources).events := by
  intro s sources
  obtain ⟨warns, keeps⟩ := ignored_local_told_as_default s sources
  have unusable : s.Unusable (sources.locals.get? s.localKey) "../Wiring" := by decide +kernel
  have usable : s.Usable (sources.build.get? s.buildKey) "App.Wiring" := by decide +kernel
  have differs : s.defaultValue ≠ "App.Wiring" := by decide
  obtain ⟨buildWide, -, -⟩ := keeps "../Wiring" unusable
  have kept := buildWide "App.Wiring" usable
  refine ⟨(warns _ _).mpr ⟨unusable, rfl⟩, kept, ?_, ?_⟩
  · rw [kept]
    exact differs
  · intro told
    exact differs ((warns _ _).mp told).2.symm

end HandlerWiring
