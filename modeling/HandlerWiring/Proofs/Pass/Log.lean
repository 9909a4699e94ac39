import HandlerWiring.Proofs.Pass
import HandlerWiring.Proofs.Setting.Warning

/-!
# The log of a pass

Everything a pass reports, in its order: what the scan found in each type, what was ignored of the
settings for the names, and then either that there is nothing to generate, or what was ignored of
the settings for the strictness, what became of each marked method, and the numbers of the outcome.
There is nothing else in the log.

A setting is consulted only if something depends on it. Of those that are, every value that is there
and cannot be used is warned about, and none of them twice.
-/

namespace HandlerWiring

/-! ## Types -/

/-- The report about a type: that it is not looked at, or each handler found in it. -/
def Candidate.log (c : Candidate) : List Event :=
  if c.isEligible then
    (c.interfaces.filterMap (Registration.of? c)).map fun r =>
      ⟨.debug, "cqrsgen_decl::scan", "found handler",
        [("implementation", .shown r.implementation), ("interface", .shown r.serviceType)]⟩
  else
    [⟨.trace, "cqrsgen_decl::scan", "skipping ineligible type", [("ty", .shown c.name)]⟩]

/-- A scan does not warn. -/
theorem Candidate.level_of_mem_log {c : Candidate} {e : Event} (h : e ∈ c.log) :
    e.level ≠ .warn := by
  rw [log] at h
  split at h
  · obtain ⟨r, -, rfl⟩ := List.mem_map.mp h
    exact nofun
  · cases List.mem_singleton.mp h
    exact nofun

namespace Registration

theorem events_ofInterfaces (c : Candidate) (interfaces : List Interface) :
    (ofInterfaces c interfaces).events =
      (interfaces.filterMap (of? c)).map fun r =>
        ⟨.debug, "cqrsgen_decl::scan", "found handler",
          [("implementation", .shown r.implementation), ("interface", .shown r.serviceType)]⟩ := by
  induction interfaces with
  | nil => rfl
  | cons i rest ih =>
    rw [ofInterfaces, List.filterMap_cons, of?]
    cases Shape.of? i with
    | none => exact ih
    | some shape => exact congrArg (found c i :: ·) ((List.append_nil _).trans ih)

theorem events_ofCandidate (c : Candidate) : (ofCandidate c).events = c.log := by
  rw [ofCandidate, Candidate.log]
  split
  · exact events_ofInterfaces c c.interfaces
  · rfl

/-- A scan reports on the types, one after the other. -/
theorem events_scan (types : List Candidate) :
    (scan types).events = types.flatMap Candidate.log := by
  induction types with
  | nil => rfl
  | cons c rest ih =>
    rw [scan, Logged.events_bind, Logged.events_bind, Logged.events_pure, List.append_nil, ih,
      events_ofCandidate, List.flatMap_cons]

end Registration

/-! ## Settings -/

namespace Setting

/-- The value that a setting ignores of what a key holds. -/
def ignored? (s : Setting) (held : Option String) : Option String :=
  (held.map Text.trimmed).filter fun value => value ≠ "" && !s.accepts value

theorem ignored?_eq_some_iff {s : Setting} {held : Option String} {value : String} :
    s.ignored? held = some value ↔ s.Unusable held value := by
  rw [ignored?, Option.filter_eq_some_iff, Bool.and_eq_true, decide_eq_true_eq,
    Bool.not_eq_true', Unusable]

/-- The warnings of a setting: about its build-wide value, then about its local one. -/
def warnings (sources : Sources) (s : Setting) : List Event :=
  ((s.ignored? (sources.build.get? s.buildKey)).map fun value =>
      s.ignoring s.buildKey value s.defaultValue).toList ++
    ((s.ignored? (sources.locals.get? s.localKey)).map fun value =>
      s.ignoring s.localKey value s.defaultValue).toList

variable {s s' : Setting} {sources : Sources} {e : Event}

/-- Looking at a key warns of the value that is ignored, if there is one. -/
theorem events_usable (s : Setting) (source : Dictionary) (key : String) :
    (s.usable source key).events =
      ((s.ignored? (source.get? key)).map fun value =>
        s.ignoring key value s.defaultValue).toList := by
  have looked : s.ignored? (source.get? key) = (present? source key).filter (!s.accepts ·) := by
    ext value
    rw [ignored?_eq_some_iff, Option.filter_eq_some_iff, present?_eq_some_iff, Unusable,
      Bool.not_eq_true', and_assoc]
  rw [looked]
  unfold usable
  cases present? source key with
  | none => rfl
  | some value =>
    cases accepted : s.accepts value with
    | true =>
      simp only [accepted, if_true, Option.filter_some, Bool.not_true, Bool.false_eq_true, if_false]
      rfl
    | false =>
      simp only [accepted, Bool.false_eq_true, if_false, Option.filter_some, Bool.not_false, if_true]
      rfl

theorem events_resolve_eq (sources : Sources) (s : Setting) :
    (s.resolve sources).events = s.warnings sources := by
  rw [events_resolve, events_usable, events_usable, warnings]

/-- A warning is about a value that is ignored under one of the two keys. -/
theorem mem_warnings :
    e ∈ s.warnings sources ↔ ∃ value,
      s.Unusable (sources.build.get? s.buildKey) value ∧
        e = s.ignoring s.buildKey value s.defaultValue ∨
      s.Unusable (sources.locals.get? s.localKey) value ∧
        e = s.ignoring s.localKey value s.defaultValue := by
  rw [← events_resolve_eq, events_resolve, List.mem_append, mem_events_usable, mem_events_usable,
    ← exists_or]

theorem level_of_mem_warnings (h : e ∈ s.warnings sources) : e.level = .warn := by
  obtain ⟨value, ⟨-, rfl⟩ | ⟨-, rfl⟩⟩ := mem_warnings.mp h
  · rfl
  · rfl

/-- A warning tells the key it is about. -/
theorem key_of_ignoring {key key' value value' kept kept' : String}
    (same : s.ignoring key value kept = s'.ignoring key' value' kept') : key = key' := by
  obtain ⟨first, -⟩ := List.cons.inj (congrArg Event.fields same)
  exact Datum.quoted.inj (Prod.mk.inj first).2

/-- Settings that share a warning are the same. -/
theorem eq_of_mem_warnings (h : e ∈ s.warnings sources) (h' : e ∈ s'.warnings sources) : s = s' := by
  obtain ⟨value, ⟨-, rfl⟩ | ⟨-, rfl⟩⟩ := mem_warnings.mp h
  · obtain ⟨value', ⟨-, same⟩ | ⟨-, same⟩⟩ := mem_warnings.mp h'
    · exact buildKey_injective (key_of_ignoring same)
    · exact absurd (key_of_ignoring same).symm (localKey_ne_buildKey s' s)
  · obtain ⟨value', ⟨-, same⟩ | ⟨-, same⟩⟩ := mem_warnings.mp h'
    · exact absurd (key_of_ignoring same) (localKey_ne_buildKey s s')
    · exact localKey_injective (key_of_ignoring same)

theorem nodup_warnings (sources : Sources) (s : Setting) : (s.warnings sources).Nodup := by
  refine List.nodup_append.mpr ⟨Option.toList_nodup _, Option.toList_nodup _, ?_⟩
  intro e hbuild e' hlocal same
  obtain ⟨value, -, rfl⟩ := Option.map_eq_some_iff.mp (Option.mem_toList.mp hbuild)
  obtain ⟨value', -, rfl⟩ := Option.map_eq_some_iff.mp (Option.mem_toList.mp hlocal)
  exact localKey_ne_buildKey s s (key_of_ignoring same).symm

/-- No warning is given twice if no setting is looked at twice. -/
theorem nodup_flatMap_warnings (sources : Sources) {consulted : List Setting}
    (distinct : consulted.Nodup) : (consulted.flatMap (warnings sources)).Nodup := by
  refine List.nodup_flatMap.mpr ⟨fun s _ => nodup_warnings sources s, ?_⟩
  exact distinct.imp fun {s s'} unlike e h h' => unlike (eq_of_mem_warnings h h')

end Setting

/-- The settings for the names, in the order in which they are resolved. -/
def Names.settings : List Setting := [.accessModifier, .className, .namespaceName]

/-- The settings for the strictness, in the order in which they are resolved. -/
def Strictness.settings : List Setting := [.parameterNames, .requireStatic]

theorem Names.events_resolve (sources : Sources) :
    (Names.resolve sources).events = settings.flatMap (Setting.warnings sources) := by
  simp only [resolve, settings, Logged.events_bind, Logged.events_pure, Setting.events_resolve_eq,
    List.flatMap_cons, List.flatMap_nil]

theorem Strictness.events_resolve (sources : Sources) :
    (Strictness.resolve sources).events = settings.flatMap (Setting.warnings sources) := by
  simp only [resolve, settings, Logged.events_bind, Logged.events_pure, Setting.events_resolve_eq,
    List.flatMap_cons, List.flatMap_nil]

/-! ## Methods -/

/-- The report about a marked method: whether it was accepted, and the code if it was not. -/
def Method.log (s : Strictness) (m : Method) : Event :=
  match m.validate s with
  | .ok _ =>
    ⟨.debug, "cqrsgen_decl::validation", "accepted extension point",
      [("method", .shown m.qualifiedName)]⟩
  | .error d =>
    ⟨.debug, "cqrsgen_decl::validation", "rejected extension point",
      [("method", .shown m.qualifiedName), ("code", .shown d.code.text)]⟩

/-- A validation does not warn. -/
theorem Method.level_log (s : Strictness) (m : Method) : (m.log s).level ≠ .warn := by
  rw [log]
  split
  · exact nofun
  · exact nofun

theorem Report.event_validate (s : Strictness) (m : Method) :
    Report.event (m.validate s) = m.log s := by
  rw [Method.log]
  cases result : m.validate s with
  | ok p =>
    obtain ⟨services, lifetime, -, rfl⟩ := Method.validate_accepts result
    rfl
  | error d =>
    rw [← (Method.validate_warns result).2]
    rfl

/-- A validation reports on the marked methods, one after the other. -/
theorem Report.events_ofMethods (s : Strictness) (methods : List Method) :
    (ofMethods s methods).events =
      (methods.filter Method.isExtensionPoint).map (Method.log s) := by
  induction methods with
  | nil => rfl
  | cons m rest ih =>
    rw [ofMethods, List.filter_cons]
    split
    · rw [List.map_cons, ← ih, ← event_validate]
      simp only [Logged.events_bind, Logged.events_report, Logged.events_pure, List.append_nil,
        List.singleton_append]
    · exact ih

/-! ## Passes -/

namespace Snapshot

variable {s : Snapshot}

theorem events_generate_of_nil (nothing : (Registration.scan s.types).value = []) (sources : Sources) :
    (s.generate sources).events =
      s.types.flatMap Candidate.log ++ Names.settings.flatMap (Setting.warnings sources) ++
        [nothingFound] := by
  rw [List.append_assoc, ← Registration.events_scan, ← Names.events_resolve]
  unfold generate
  simp only [Logged.events_bind, nothing, List.isEmpty_nil, if_true, Logged.events_report,
    Logged.events_pure, List.append_nil]

theorem events_generate_of_ne_nil (something : (Registration.scan s.types).value ≠ [])
    (sources : Sources) :
    (s.generate sources).events =
      s.types.flatMap Candidate.log ++ Names.settings.flatMap (Setting.warnings sources) ++
        Strictness.settings.flatMap (Setting.warnings sources) ++
        s.markedMethods.map (Method.log (Strictness.resolve sources).value) ++
        [passComplete (s.generate sources).value] := by
  have found : (Registration.scan s.types).value.isEmpty = false :=
    List.isEmpty_eq_false_iff.mpr something
  rw [value_generate, markedMethods, ← Registration.events_scan, ← Names.events_resolve,
    ← Strictness.events_resolve, ← Report.events_ofMethods]
  unfold generate
  simp only [Logged.events_bind, found, Bool.false_eq_true, if_false, Logged.events_report,
    Logged.events_pure, List.append_nil, List.append_assoc]

/-- The settings that a pass consults. -/
def consulted (s : Snapshot) : List Setting :=
  if (Registration.scan s.types).value = [] then Names.settings
  else Names.settings ++ Strictness.settings

theorem nodup_consulted (s : Snapshot) : s.consulted.Nodup := by
  rw [consulted]
  split
  · decide
  · decide

/-- The warnings of a pass are those of the settings it consults. -/
theorem filter_events_generate (s : Snapshot) (sources : Sources) :
    (s.generate sources).events.filter (·.level = .warn) =
      s.consulted.flatMap (Setting.warnings sources) := by
  have without {events : List Event} (others : ∀ e ∈ events, e.level ≠ .warn) :
      events.filter (·.level = .warn) = [] := by
    rw [List.filter_eq_nil_iff]
    intro e he
    rw [decide_eq_true_eq]
    exact others e he
  have types : (s.types.flatMap Candidate.log).filter (·.level = .warn) = [] := by
    refine without fun e he => ?_
    obtain ⟨c, -, he⟩ := List.mem_flatMap.mp he
    exact Candidate.level_of_mem_log he
  have methods (strictness : Strictness) :
      (s.markedMethods.map (Method.log strictness)).filter (·.level = .warn) = [] := by
    refine without fun e he => ?_
    obtain ⟨m, -, rfl⟩ := List.mem_map.mp he
    exact m.level_log strictness
  have settings (consulted : List Setting) :
      (consulted.flatMap (Setting.warnings sources)).filter (·.level = .warn) =
        consulted.flatMap (Setting.warnings sources) := by
    rw [List.filter_eq_self]
    intro e he
    obtain ⟨setting, -, he⟩ := List.mem_flatMap.mp he
    exact decide_eq_true (Setting.level_of_mem_warnings he)
  have ending {e : Event} (level : e.level = .info) : [e].filter (·.level = .warn) = [] := by
    rw [List.filter_singleton, level]
    rfl
  rw [consulted]
  split
  · next nothing =>
    have last : [nothingFound].filter (·.level = .warn) = [] := ending rfl
    rw [events_generate_of_nil nothing, List.filter_append, List.filter_append, types, settings,
      last, List.nil_append, List.append_nil]
  · next something =>
    have last (o : Outcome) : [passComplete o].filter (·.level = .warn) = [] := ending rfl
    rw [events_generate_of_ne_nil something, List.flatMap_append, List.filter_append,
      List.filter_append, List.filter_append, List.filter_append, types, settings, settings,
      methods, last, List.nil_append, List.append_nil, List.append_nil]

variable {sources : Sources}

/-- What a pass warns about. -/
theorem mem_events_generate_warn {e : Event} :
    e ∈ (s.generate sources).events ∧ e.level = .warn ↔
      ∃ setting ∈ s.consulted, e ∈ setting.warnings sources := by
  rw [← List.mem_flatMap, ← filter_events_generate, List.mem_filter, decide_eq_true_eq]

/-- A pass gives each warning of a setting it consults once. -/
theorem count_events_generate {setting : Setting} (among : setting ∈ s.consulted) {e : Event}
    (given : e ∈ setting.warnings sources) : (s.generate sources).events.count e = 1 := by
  obtain ⟨there, level⟩ := mem_events_generate_warn.mpr ⟨setting, among, given⟩
  have distinct : ((s.generate sources).events.filter (·.level = .warn)).Nodup := by
    rw [filter_events_generate]
    exact Setting.nodup_flatMap_warnings sources s.nodup_consulted
  have level : decide (e.level = .warn) = true := decide_eq_true level
  rw [← List.count_filter (p := fun e : Event => decide (e.level = .warn)) level]
  exact List.count_eq_one_of_mem distinct (List.mem_filter.mpr ⟨there, level⟩)

end Snapshot

/-- The log of a pass over any snapshot with any sources, in its order and with nothing else in it.
The settings consulted are those for the names, and those for the strictness only if there is
something to register. Each of their values that is ignored is warned about exactly once, and every
warning is about such a value. -/
theorem pass_log_is_complete (s : Snapshot) (sources : Sources) :
    let outcome := (s.generate sources).value
    let log := (s.generate sources).events
    let strictness := (Strictness.resolve sources).value
    let scanned := s.types.flatMap Candidate.log
    let names : List Setting := [.accessModifier, .className, .namespaceName]
    let strict : List Setting := [.parameterNames, .requireStatic]
    let warned (settings : List Setting) := settings.flatMap (Setting.warnings sources)
    let consulted := if outcome.registrations = [] then names else names ++ strict
    outcome.registrations = s.types.flatMap Registration.ofType ∧
      (outcome.registrations = [] →
        log = scanned ++ warned names ++
          [⟨.info, "cqrsgen_csharp::pass",
            "no handler implementations found; nothing to generate", []⟩]) ∧
      (outcome.registrations ≠ [] → ∃ u, outcome.unit = some u ∧
        log = scanned ++ warned names ++ warned strict ++
          s.markedMethods.map (Method.log strictness) ++
          [⟨.info, "cqrsgen_csharp::pass", "generation pass complete",
            [("stubs", .count outcome.registrations.length),
              ("extension_points", .count outcome.validation.points.length),
              ("diagnostics", .count outcome.diagnostics.length),
              ("unit", .quoted u.hintName)]⟩]) ∧
      (∀ setting ∈ consulted, ∀ value,
        (setting.Unusable (sources.build.get? setting.buildKey) value →
          log.count (setting.ignoring setting.buildKey value setting.defaultValue) = 1) ∧
        (setting.Unusable (sources.locals.get? setting.localKey) value →
          log.count (setting.ignoring setting.localKey value setting.defaultValue) = 1)) ∧
      ∀ e ∈ log, e.level = .warn → ∃ setting ∈ consulted, ∃ value,
        setting.Unusable (sources.build.get? setting.buildKey) value ∧
          e = setting.ignoring setting.buildKey value setting.defaultValue ∨
        setting.Unusable (sources.locals.get? setting.localKey) value ∧
          e = setting.ignoring setting.localKey value setting.defaultValue := by
  intro outcome log strictness scanned names strict warned consulted
  have registrations : outcome.registrations = (Registration.scan s.types).value :=
    Snapshot.registrations_generate s sources
  have same : consulted = s.consulted := by
    simp only [consulted, registrations, Snapshot.consulted]
    rfl
  refine ⟨?_, ?_, ?_, ?_, ?_⟩
  · rw [registrations, Registration.value_scan]
  · intro nothing
    exact Snapshot.events_generate_of_nil (registrations ▸ nothing) sources
  · intro something
    rw [registrations] at something
    have unit := Snapshot.unit_generate ((Registration.scan_ne_nil_iff s.types).mp something) sources
    refine ⟨_, unit, ?_⟩
    have listed := Snapshot.events_generate_of_ne_nil something sources
    rw [Snapshot.passComplete, unit, Option.map_some, Option.getD_some] at listed
    exact listed
  · intro setting among value
    rw [same] at among
    refine ⟨fun unusable => ?_, fun unusable => ?_⟩
    · exact Snapshot.count_events_generate among
        (Setting.mem_warnings.mpr ⟨value, .inl ⟨unusable, rfl⟩⟩)
    · exact Snapshot.count_events_generate among
        (Setting.mem_warnings.mpr ⟨value, .inr ⟨unusable, rfl⟩⟩)
  · intro e he level
    obtain ⟨setting, among, given⟩ := Snapshot.mem_events_generate_warn.mp ⟨he, level⟩
    exact ⟨setting, same ▸ among, Setting.mem_warnings.mp given⟩

end HandlerWiring
