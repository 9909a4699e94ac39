import HandlerWiring.ExtensionPoint.Report
import HandlerWiring.Proofs.ExtensionPoint.Violation

/-!
# What a validation reports

A rule rejects a method with a warning about that method. The report about some methods has the
extension points of the marked ones that no rule rejects and the warnings about the others, each in
declaration order.
-/

namespace HandlerWiring

/-- A rejected method is warned about. -/
theorem Method.validate_warns {s : Strictness} {m : Method} {d : Diagnostic}
    (h : m.validate s = .error d) : d.severity = .warning ∧ d.method = m.qualifiedName := by
  obtain ⟨code, message, place, -, rfl⟩ := validate_eq_error_iff.mp h
  exact ⟨rfl, rfl⟩

/-- An accepted method has two parameters, and its extension point is made of them. -/
theorem Method.validate_accepts {s : Strictness} {m : Method} {p : ExtensionPoint}
    (h : m.validate s = .ok p) :
    ∃ services lifetime, m.parameters = [services, lifetime] ∧
      p = .ofMethod m services lifetime :=
  (validate_eq_ok_iff.mp h).2

/-- The warning about a method, if some rule rejects it. -/
def Method.rejection? (s : Strictness) (m : Method) : Option Diagnostic :=
  match m.validate s with
  | .ok _ => none
  | .error d => some d

theorem Method.rejection?_eq_some_iff {s : Strictness} {m : Method} {d : Diagnostic} :
    m.rejection? s = some d ↔ m.validate s = .error d := by
  unfold rejection?
  cases m.validate s with
  | ok p => simp
  | error d' => simp

namespace Report

/-- A report accepts the marked methods that no rule rejects and warns about the others. -/
theorem value_ofMethods (s : Strictness) (methods : List Method) :
    (ofMethods s methods).value =
      { points := (methods.filter Method.isExtensionPoint).filterMap fun m =>
          (m.validate s).toOption
        diagnostics :=
          (methods.filter Method.isExtensionPoint).filterMap (Method.rejection? s) } := by
  induction methods with
  | nil => rfl
  | cons m rest ih =>
    rw [ofMethods, List.filter_cons]
    split
    · change (ofMethods s rest).value.cons (m.validate s) = _
      rw [ih, List.filterMap_cons, List.filterMap_cons, Method.rejection?]
      cases m.validate s with
      | ok p => rfl
      | error d => rfl
    · exact ih

/-- Unmarked methods are not reported on. -/
theorem ofMethods_congr {methods methods' : List Method} (s : Strictness)
    (same : methods.filter Method.isExtensionPoint = methods'.filter Method.isExtensionPoint) :
    (ofMethods s methods).value = (ofMethods s methods').value := by
  rw [value_ofMethods, value_ofMethods, same]

/-- Every rejection in a report is a warning. -/
theorem ofMethods_warns (s : Strictness) (methods : List Method) :
    ∀ d ∈ (ofMethods s methods).value.diagnostics, d.severity = .warning := by
  rw [value_ofMethods]
  intro d hd
  obtain ⟨m, -, rejected⟩ := List.mem_filterMap.mp hd
  exact (Method.validate_warns (Method.rejection?_eq_some_iff.mp rejected)).1

end Report

end HandlerWiring
