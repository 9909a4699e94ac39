import HandlerWiring.Proofs.Input
import HandlerWiring.Proofs.Setting.Resolution

/-!
# Which input decides a setting

The options of a snapshot stand behind both sources. Properties are written over them in the
build-wide source only, the last one of a key last, and the table of a settings file in the local
source only. A setting takes the local value if it is usable, else the build-wide one, else its
default. So the options of a snapshot are not behind everything: a usable local value among them is
stronger than every property.

What a settings file has to look like for its table to be read is not said here.
-/

namespace HandlerWiring

namespace Sources

/-- What the last property of a key says. -/
def lastProperty? (properties : List Property) (key : String) : Option String :=
  (properties.reverse.find? fun p => buildPropertyKey p.name = key).map (·.value)

/-- The build-wide source holds what the last property of a key says, else what the options do. -/
theorem get?_buildOf (options : Dictionary) (properties : List Property) (key : String) :
    (buildOf options properties).get? key = (lastProperty? properties key).or (options.get? key) := by
  let entries := properties.map fun p => (buildPropertyKey p.name, p.value)
  have written : buildOf options properties = options.insertAll entries := by
    simp only [buildOf, entries, Dictionary.insertAll, List.foldl_map]
    rfl
  have last : Dictionary.lastUnder? key entries = lastProperty? properties key := by
    rw [Dictionary.lastUnder?, ← List.map_reverse, List.find?_map, Option.map_map]
    rfl
  rw [written, Dictionary.get?_insertAll, last]

/-- The local source holds what a table says, else what the options do. -/
theorem get?_locals_combine (options : Dictionary) (properties : List Property) (table : Dictionary)
    (key : String) :
    (combine options properties table).locals.get? key =
      (table.get? key).or (options.get? key) := by
  rw [combine, Dictionary.get?_insertAll, Dictionary.lastUnder?_entries]

/-- The options of a snapshot, or none of them without a snapshot, hold what the snapshot says. -/
theorem get?_getD_empty (snapshot : Option Dictionary) (key : String) :
    (snapshot.getD .empty).get? key = snapshot.bind (·.get? key) := by
  cases snapshot with
  | none => rfl
  | some options => rfl

/-- Sources are assembled from a settings file that can be read. -/
theorem assembled {w : World} {settings : Option Path} {table : Dictionary}
    (read : settingsFound w.files settings = .ok table) (options : Dictionary)
    (properties : List Property) :
    ((assemble options settings properties).run w).1 = .ok (combine options properties table) := by
  rw [run_assemble, found, read]
  rfl

end Sources

namespace Setting

/-- What a key holds is usable for a setting as a value: without the blanks around it, it is that
value, which is not empty and which the setting accepts. -/
def Usable (s : Setting) (held : Option String) (value : String) : Prop :=
  held.map Text.trimmed = some value ∧ value ≠ "" ∧ s.accepts value = true

instance (s : Setting) (held : Option String) (value : String) : Decidable (s.Usable held value) :=
  inferInstanceAs (Decidable (_ ∧ _ ∧ _))

/-- The usable value under a key is found. -/
theorem value_usable_eq_some_iff {s : Setting} {source : Dictionary} {key value : String} :
    (s.usable source key).value = some value ↔ s.Usable (source.get? key) value := by
  rw [value_usable, Option.filter_eq_some_iff, present?, Option.filter_eq_some_iff, Usable,
    and_assoc]
  have spelt : (!value.isEmpty) = true ↔ value ≠ "" := by
    rw [Bool.not_eq_true', ← Bool.not_eq_true, String.isEmpty_iff]
  rw [spelt]

/-- Nothing is found under a key that holds no usable value. -/
theorem value_usable_eq_none {s : Setting} {source : Dictionary} {key : String}
    (unusable : ∀ value, ¬s.Usable (source.get? key) value) : (s.usable source key).value = none := by
  rw [Option.eq_none_iff_forall_ne_some]
  intro value found
  exact unusable value (value_usable_eq_some_iff.mp found)

variable {s : Setting} {sources : Sources}

/-- A usable local value is taken. -/
theorem resolve_locally {value : String}
    (locally : s.Usable (sources.locals.get? s.localKey) value) :
    (s.resolve sources).value = ⟨s, value, .locally⟩ := by
  simp only [resolve, Logged.value_bind, value_usable_eq_some_iff.mpr locally]
  rfl

/-- Without a usable local value, a usable build-wide one is taken. -/
theorem resolve_buildWide {value : String}
    (locally : ∀ value, ¬s.Usable (sources.locals.get? s.localKey) value)
    (build : s.Usable (sources.build.get? s.buildKey) value) :
    (s.resolve sources).value = ⟨s, value, .buildWide⟩ := by
  simp only [resolve, Logged.value_bind, value_usable_eq_none locally,
    value_usable_eq_some_iff.mpr build]
  rfl

/-- Without any usable value the default is taken. -/
theorem resolve_default
    (locally : ∀ value, ¬s.Usable (sources.locals.get? s.localKey) value)
    (build : ∀ value, ¬s.Usable (sources.build.get? s.buildKey) value) :
    (s.resolve sources).value = ⟨s, s.defaultValue, .default⟩ := by
  simp only [resolve, Logged.value_bind, value_usable_eq_none locally, value_usable_eq_none build]
  rfl

end Setting

/-- The sources that are assembled from a snapshot, a settings file and properties. The build-wide
one has the last property of a key before the snapshot's options, the local one has the table
before the options; no property shows locally, no table shows in the build-wide source. So each
setting is decided by the usable local value, else by the usable build-wide value, else by its
default, and a usable local value of a snapshot that the table does not mention is decisive whatever
the properties say. -/
theorem settings_rank_local_over_build (w : World) (snapshot : Option Dictionary)
    {settings : Option Path} {table : Dictionary}
    (read : Sources.settingsFound w.files settings = .ok table) (properties : List Property) :
    let assembled (settings : Option Path) (properties : List Property) :=
      ((Sources.assemble (snapshot.getD .empty) settings properties).run w).1
    let exported (key : String) := snapshot.bind (·.get? key)
    ∃ sources, assembled settings properties = .ok sources ∧
      (∀ key, sources.build.get? key =
        ((properties.reverse.find? fun p => buildPropertyKey p.name = key).map (·.value)).or
          (exported key)) ∧
      (∀ key, sources.locals.get? key = (table.get? key).or (exported key)) ∧
      (∀ properties', ∃ build, assembled settings properties' = .ok ⟨build, sources.locals⟩) ∧
      (∀ settings' table', Sources.settingsFound w.files settings' = .ok table' →
        ∃ locals, assembled settings' properties = .ok ⟨sources.build, locals⟩) ∧
      ∀ s : Setting,
        let localHeld := (table.get? s.localKey).or (exported s.localKey)
        let buildHeld :=
          ((properties.reverse.find? fun p => buildPropertyKey p.name = s.buildKey).map
            (·.value)).or (exported s.buildKey)
        (∀ value, s.Usable localHeld value →
          (s.resolve sources).value = ⟨s, value, .locally⟩) ∧
        ((∀ value, ¬s.Usable localHeld value) → ∀ value, s.Usable buildHeld value →
          (s.resolve sources).value = ⟨s, value, .buildWide⟩) ∧
        ((∀ value, ¬s.Usable localHeld value) → (∀ value, ¬s.Usable buildHeld value) →
          (s.resolve sources).value = ⟨s, s.defaultValue, .default⟩) ∧
        (table.get? s.localKey = none → ∀ value, s.Usable (exported s.localKey) value →
          ∀ properties' sources', assembled settings properties' = .ok sources' →
            (s.resolve sources').value = ⟨s, value, .locally⟩) := by
  intro assembled exported
  have gives : ∀ properties', assembled settings properties' =
      .ok (Sources.combine (snapshot.getD .empty) properties' table) := by
    intro properties'
    exact Sources.assembled read (snapshot.getD .empty) properties'
  have build : ∀ key, (Sources.combine (snapshot.getD .empty) properties table).build.get? key =
      (Sources.lastProperty? properties key).or (exported key) := by
    intro key
    rw [Sources.combine, Sources.get?_buildOf, Sources.get?_getD_empty]
  have locals : ∀ properties' key,
      (Sources.combine (snapshot.getD .empty) properties' table).locals.get? key =
        (table.get? key).or (exported key) := by
    intro properties' key
    rw [Sources.get?_locals_combine, Sources.get?_getD_empty]
  refine ⟨_, gives properties, build, locals properties, ?_, ?_, ?_⟩
  · intro properties'
    exact ⟨_, gives properties'⟩
  · intro settings' table' read'
    exact ⟨_, Sources.assembled read' (snapshot.getD .empty) properties⟩
  · intro s localHeld buildHeld
    refine ⟨?_, ?_, ?_, ?_⟩
    · intro value locally
      apply Setting.resolve_locally
      rw [locals]
      exact locally
    · intro unusable value buildWide
      apply Setting.resolve_buildWide
      · rw [locals]
        exact unusable
      · rw [build]
        exact buildWide
    · intro unusable unset
      apply Setting.resolve_default
      · rw [locals]
        exact unusable
      · rw [build]
        exact unset
    · intro unmentioned value locally properties' sources' given
      cases (gives properties').symm.trans given
      apply Setting.resolve_locally
      rw [locals, unmentioned]
      exact locally

/-- The world in which a settings file with a namespace is the only file. -/
def Sample.settingsWorld : World :=
  .ofFiles ⟨[(["wiring.toml"], .text "CQRSToolkit_DIGen_Namespace = \"Local\"\n")], []⟩

theorem Sample.settingsWorld_found :
    Sources.settingsFound settingsWorld.files (some ⟨"wiring.toml"⟩) =
      .ok (Dictionary.empty.insert Setting.namespaceName.localKey "Local") := by
  have stored : settingsWorld.files.read ⟨"wiring.toml"⟩ =
      .ok "CQRSToolkit_DIGen_Namespace = \"Local\"\n" := rfl
  have parsed : (Sources.settingsOf ⟨"wiring.toml"⟩
      "CQRSToolkit_DIGen_Namespace = \"Local\"\n").toOption =
        some (Dictionary.empty.insert Setting.namespaceName.localKey "Local") := by
    decide +kernel
  rw [Sources.settingsFound]
  simp only [stored]
  generalize Sources.settingsOf _ _ = read at parsed ⊢
  cases read with
  | error fault => cases parsed
  | ok table => exact congrArg _ (Option.some.inj parsed)

/-- A class name among the options of a snapshot is stronger than a property, and a namespace of a
settings file is read beside it. -/
theorem settings_rank_local_over_build_sample :
    let table := Dictionary.empty.insert Setting.namespaceName.localKey "Local"
    let exported := Dictionary.empty.insert Setting.className.localKey " Exported "
    Sources.settingsFound Sample.settingsWorld.files (some ⟨"wiring.toml"⟩) = .ok table ∧
      ∃ sources,
        ((Sources.assemble exported (some ⟨"wiring.toml"⟩)
          [⟨"CQRSToolkit_DIGen_ClassName", "Given"⟩]).run Sample.settingsWorld).1 = .ok sources ∧
        (Setting.className.resolve sources).value = ⟨.className, "Exported", .locally⟩ ∧
        (Setting.namespaceName.resolve sources).value = ⟨.namespaceName, "Local", .locally⟩ ∧
        (Setting.accessModifier.resolve sources).value = ⟨.accessModifier, "internal", .default⟩ := by
  intro table exported
  have read := Sample.settingsWorld_found
  obtain ⟨sources, assembled, -, -, -, -, decided⟩ :=
    settings_rank_local_over_build Sample.settingsWorld (some exported) read
      [⟨"CQRSToolkit_DIGen_ClassName", "Given"⟩]
  refine ⟨read, sources, assembled, ?_, ?_, ?_⟩
  · apply (decided .className).1
    decide
  · apply (decided .namespaceName).1
    decide
  · apply (decided .accessModifier).2.2.1
    · intro value usable
      cases usable.1
    · intro value usable
      cases usable.1

end HandlerWiring
