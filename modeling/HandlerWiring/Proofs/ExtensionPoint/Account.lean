import HandlerWiring.Proofs.ExtensionPoint.Report

/-!
# A report accounts for its methods

Validating a list of methods puts each result in front of one of two lists. Nothing is lost on the
way, said twice or moved: put together again in declaration order, the two lists are the results of
the marked methods, one each. What a method comes to does not depend on the methods around it, so
unmarked methods may be left out and reports about lists in a row may be joined.
-/

namespace HandlerWiring

/-- Some results in their order, told apart into the values and the errors among them. -/
inductive Interleaves : List α → List ε → List (Except ε α) → Prop
  | nil : Interleaves [] [] []
  | value (a : α) {values : List α} {errors : List ε} {results : List (Except ε α)} :
    Interleaves values errors results → Interleaves (a :: values) errors (.ok a :: results)
  | error (e : ε) {values : List α} {errors : List ε} {results : List (Except ε α)} :
    Interleaves values errors results → Interleaves values (e :: errors) (.error e :: results)

namespace Interleaves

variable {values : List α} {errors : List ε} {results : List (Except ε α)}

/-- Every result is one of the values or one of the errors. -/
theorem length (h : Interleaves values errors results) :
    values.length + errors.length = results.length := by
  induction h with
  | nil => rfl
  | value a _ ih => simp only [List.length_cons]; omega
  | error e _ ih => simp only [List.length_cons]; omega

/-- The results determine the two lists. -/
theorem unique (h : Interleaves values errors results) {values' : List α} {errors' : List ε}
    (h' : Interleaves values' errors' results) : values' = values ∧ errors' = errors := by
  induction h with
  | nil =>
    cases h'
    exact ⟨rfl, rfl⟩
  | value a _ ih =>
    cases h' with
    | value _ rest =>
      obtain ⟨rfl, rfl⟩ := ih rest
      exact ⟨rfl, rfl⟩
  | error e _ ih =>
    cases h' with
    | error _ rest =>
      obtain ⟨rfl, rfl⟩ := ih rest
      exact ⟨rfl, rfl⟩

/-- There are no errors just if every result is a value. -/
theorem errors_eq_nil_iff (h : Interleaves values errors results) :
    errors = [] ↔ ∀ result ∈ results, ∃ a, result = .ok a := by
  induction h with
  | nil => simp
  | value a _ ih => simp [ih]
  | error e _ _ => simp

end Interleaves

namespace Report

/-- A report and a later one. -/
instance : Append Report := ⟨fun r r' => ⟨r.points ++ r'.points, r.diagnostics ++ r'.diagnostics⟩⟩

/-- The qualified name of the method that a result is about. -/
def methodOf : Except Diagnostic ExtensionPoint → String
  | .ok p => p.qualifiedName
  | .error d => d.method

/-- One more result in front of a report is one more in front of its results. -/
theorem interleaves_cons {r : Report} {results : List (Except Diagnostic ExtensionPoint)}
    (h : Interleaves r.points r.diagnostics results)
    (result : Except Diagnostic ExtensionPoint) :
    Interleaves (r.cons result).points (r.cons result).diagnostics (result :: results) := by
  cases result with
  | ok p => exact .value p h
  | error d => exact .error d h

/-- A report is the results of the marked methods. -/
theorem interleaves_ofMethods (s : Strictness) (methods : List Method) :
    Interleaves (ofMethods s methods).value.points (ofMethods s methods).value.diagnostics
      ((methods.filter Method.isExtensionPoint).map (Method.validate s)) := by
  induction methods with
  | nil => exact .nil
  | cons m rest ih =>
    rw [ofMethods, List.filter_cons]
    split
    · exact interleaves_cons ih (m.validate s)
    · exact ih

/-- A result is about its method. -/
theorem methodOf_validate (s : Strictness) (m : Method) :
    methodOf (m.validate s) = m.qualifiedName := by
  cases result : m.validate s with
  | ok p =>
    obtain ⟨services, lifetime, -, rfl⟩ := Method.validate_accepts result
    rfl
  | error d => exact (Method.validate_warns result).2

theorem value_ofMethods_append (s : Strictness) (methods methods' : List Method) :
    (ofMethods s (methods ++ methods')).value =
      (ofMethods s methods).value ++ (ofMethods s methods').value := by
  rw [value_ofMethods, value_ofMethods, value_ofMethods, List.filter_append, List.filterMap_append,
    List.filterMap_append]
  rfl

end Report

/-- A report accounts for every marked method once. Its extension points and its diagnostics, put
together in declaration order, are the results of the marked methods, one each, and each of them
names its method; no other two lists are. So there are as many of them as marked methods. Lists with
the same marked methods have the same report, whatever stands between, the report about two lists in
a row is the one report followed by the other, and a report is clean just if every marked method is
accepted. -/
theorem report_accounts_for_marked (s : Strictness) (methods : List Method) :
    let report := (Report.ofMethods s methods).value
    let marked := methods.filter Method.isExtensionPoint
    let results := marked.map (Method.validate s)
    (∀ points diagnostics, Interleaves points diagnostics results ↔
        points = report.points ∧ diagnostics = report.diagnostics) ∧
      results.map Report.methodOf = marked.map Method.qualifiedName ∧
      report.points.length + report.diagnostics.length = marked.length ∧
      (∀ methods' : List Method, methods'.filter Method.isExtensionPoint = marked →
        (Report.ofMethods s methods').value = report) ∧
      (∀ methods' : List Method, (Report.ofMethods s (methods ++ methods')).value =
        report ++ (Report.ofMethods s methods').value) ∧
      (report.isClean = true ↔ ∀ m ∈ marked, ∃ p, m.validate s = .ok p) := by
  intro report marked results
  have accounts : Interleaves report.points report.diagnostics results :=
    Report.interleaves_ofMethods s methods
  refine ⟨?_, ?_, ?_, ?_, Report.value_ofMethods_append s methods, ?_⟩
  · intro points diagnostics
    constructor
    · exact accounts.unique
    · rintro ⟨rfl, rfl⟩
      exact accounts
  · rw [List.map_map]
    exact List.map_congr_left fun m _ => Report.methodOf_validate s m
  · rw [accounts.length, List.length_map]
  · intro methods' same
    exact Report.ofMethods_congr s same
  · rw [Report.isClean, List.isEmpty_iff, accounts.errors_eq_nil_iff, List.forall_mem_map]

end HandlerWiring
