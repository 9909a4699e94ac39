import HandlerWiring.Pass
import HandlerWiring.Proofs.ExtensionPoint.Report
import HandlerWiring.Proofs.Handler.Registration

/-!
# What a pass produces

A pass has a unit exactly if there is a handler. The unit completes the extension points of the
accepted methods and takes nothing from the settings but the strictness; only if no method is
accepted it is synthesized from the names in the settings.
-/

namespace HandlerWiring

/-! ## Accepted methods -/

/-- Whether no rule rejects a method. -/
def Method.isAccepted (s : Strictness) (m : Method) : Bool := (m.validate s).isOk

namespace Snapshot

/-- The marked methods that no rule rejects, in declaration order. -/
def acceptedMethods (snapshot : Snapshot) (s : Strictness) : List Method :=
  snapshot.markedMethods.filter (Method.isAccepted s)

/-- The extension points of the marked methods that no rule rejects. -/
def acceptedPoints (snapshot : Snapshot) (s : Strictness) : List ExtensionPoint :=
  snapshot.markedMethods.filterMap fun m => (m.validate s).toOption

/-- The first accepted method gives the first extension point its name. -/
theorem acceptedMethods_head? (snapshot : Snapshot) (s : Strictness) :
    (snapshot.acceptedMethods s).head?.map Method.qualifiedName =
      (snapshot.acceptedPoints s).head?.map ExtensionPoint.qualifiedName := by
  unfold acceptedMethods acceptedPoints
  induction snapshot.markedMethods with
  | nil => rfl
  | cons m rest ih =>
    rw [List.filter_cons, List.filterMap_cons, Method.isAccepted]
    cases result : m.validate s with
    | error d => exact ih
    | ok p =>
      obtain ⟨services, lifetime, -, rfl⟩ := Method.validate_accepts result
      rfl

/-- There is an extension point exactly if a marked method is accepted. -/
theorem acceptedPoints_ne_nil_iff (snapshot : Snapshot) (s : Strictness) :
    snapshot.acceptedPoints s ≠ [] ↔ ∃ m ∈ snapshot.markedMethods, ∃ p, m.validate s = .ok p := by
  constructor
  · intro some
    obtain ⟨p, hp⟩ := List.exists_mem_of_ne_nil _ some
    obtain ⟨m, hm, accepted⟩ := List.mem_filterMap.mp hp
    cases result : m.validate s with
    | error d =>
      rw [result] at accepted
      cases accepted
    | ok p => exact ⟨m, hm, p, result⟩
  · rintro ⟨m, hm, p, result⟩
    have here : p ∈ snapshot.acceptedPoints s :=
      List.mem_filterMap.mpr ⟨m, hm, congrArg Except.toOption result⟩
    exact List.ne_nil_of_mem here

/-! ## Passes -/

/-- What a pass over a snapshot comes to. -/
theorem value_generate (s : Snapshot) (sources : Sources) :
    (s.generate sources).value =
      let registrations := (Registration.scan s.types).value
      let names := (Names.resolve sources).value
      let validation := (Report.ofMethods (Strictness.resolve sources).value s.methods).value
      if registrations.isEmpty then { registrations, names, validation := .empty, unit := none }
      else
        { registrations, names, validation
          unit := GeneratedUnit.emit? registrations validation.points names } := by
  unfold generate
  simp only [Logged.value_bind]
  split
  · rfl
  · rfl

/-- A pass finds the registrations of a scan. -/
theorem registrations_generate (s : Snapshot) (sources : Sources) :
    (s.generate sources).value.registrations = (Registration.scan s.types).value := by
  rw [value_generate]
  dsimp only
  split
  · rfl
  · rfl

/-- A pass resolves the names, even if it finds nothing. -/
theorem names_generate (s : Snapshot) (sources : Sources) :
    (s.generate sources).value.names = (Names.resolve sources).value := by
  rw [value_generate]
  dsimp only
  split
  · rfl
  · rfl

/-- A pass that finds nothing reports nothing and has no unit. -/
theorem generate_of_nil {s : Snapshot} (sources : Sources)
    (nothing : (Registration.scan s.types).value = []) :
    (s.generate sources).value.validation = .empty ∧
      (s.generate sources).value.unit = none := by
  rw [value_generate, nothing]
  exact ⟨rfl, rfl⟩

/-- A pass that finds something reports on the methods as a validation does. -/
theorem validation_generate {s : Snapshot} (sources : Sources)
    (something : (Registration.scan s.types).value ≠ []) :
    (s.generate sources).value.validation =
      (Report.ofMethods (Strictness.resolve sources).value s.methods).value := by
  have found : (Registration.scan s.types).value.isEmpty = false :=
    List.isEmpty_eq_false_iff.mpr something
  rw [value_generate]
  simp only [found, Bool.false_eq_true, if_false]

/-- What a pass rejects it only warns about. -/
theorem generate_warns (s : Snapshot) (sources : Sources) :
    ∀ d ∈ (s.generate sources).value.diagnostics, d.severity = .warning := by
  rw [value_generate]
  dsimp only
  split
  · intro d hd
    exact (List.not_mem_nil hd).elim
  · exact Report.ofMethods_warns _ _

/-- Without a handler nothing is produced, and the methods are not looked at. -/
theorem generate_of_no_handler {s : Snapshot} (none : ¬Registration.SomeHandler s.types)
    (sources : Sources) :
    (s.generate sources).value.unit = Option.none ∧
      (s.generate sources).value.validation = .empty := by
  have nothing : (Registration.scan s.types).value = [] := by
    rw [← Registration.scan_ne_nil_iff] at none
    exact Classical.not_not.mp none
  rw [value_generate]
  rw [nothing]
  exact ⟨rfl, rfl⟩

/-- The unit that completes some extension points, the first of which names it. -/
def completionUnit (s : Snapshot) (first : ExtensionPoint) (rest : List ExtensionPoint) :
    GeneratedUnit :=
  { hintName := first.qualifiedName ++ ".g.cs"
    kind := .completion
    source := Unit.unitText ((first :: rest).map .ofPoint) (Registration.scan s.types).value }

/-- The unit with the method that is named by the settings. -/
def synthesizedUnit (s : Snapshot) (names : Names) : GeneratedUnit :=
  { hintName := qualify names.namespaceName names.className "AddGenerated" ++ ".g.cs"
    kind := .synthesized
    source := Unit.unitText [.ofNames names "AddGenerated"] (Registration.scan s.types).value }

/-- With a handler, the unit depends on the accepted extension points, and on the names in the
settings only if there are none. -/
theorem unit_generate {s : Snapshot} (handler : Registration.SomeHandler s.types)
    (sources : Sources) :
    (s.generate sources).value.unit = some
      (match s.acceptedPoints (Strictness.resolve sources).value with
        | first :: rest => s.completionUnit first rest
        | [] => s.synthesizedUnit (Names.resolve sources).value) := by
  have found : (Registration.scan s.types).value.isEmpty = false := by
    rw [List.isEmpty_eq_false_iff]
    exact (Registration.scan_ne_nil_iff s.types).mpr handler
  have points : (Report.ofMethods (Strictness.resolve sources).value s.methods).value.points =
      s.acceptedPoints (Strictness.resolve sources).value := by
    rw [Report.value_ofMethods]
    rfl
  rw [value_generate]
  simp only [found, Bool.false_eq_true, if_false, GeneratedUnit.emit?, points]
  cases s.acceptedPoints (Strictness.resolve sources).value with
  | nil => rfl
  | cons first rest => rfl

end Snapshot

end HandlerWiring
