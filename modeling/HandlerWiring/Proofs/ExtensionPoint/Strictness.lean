import HandlerWiring.Proofs.ExtensionPoint.Report
import HandlerWiring.Sample

/-!
# Stricter and laxer validation

A strictness is laxer than another if it insists on static methods only where the other does and
compares names no more closely: not at all, then up to case, then exactly. What the strict one
accepts the lax one accepts as well, as the same extension point; what the lax one rejects the
strict one rejects, for the same reason or for one that is looked at earlier. Only the rules about
static methods and about names can tell the two apart.

That a strict validation rejects more does not say that it reports more: a method has one
diagnostic, and the strict one may stand in place of another.
-/

namespace HandlerWiring

namespace NameMatching

/-- How much a level insists on. -/
def rank : NameMatching → Nat
  | .off => 0
  | .ignoreCase => 1
  | .exact => 2

instance : LE NameMatching := ⟨fun lax strict => lax.rank ≤ strict.rank⟩

instance (lax strict : NameMatching) : Decidable (lax ≤ strict) :=
  inferInstanceAs (Decidable (lax.rank ≤ strict.rank))

/-- A laxer level accepts every name that a level accepts. -/
theorem accepts_of_le {lax strict : NameMatching} (h : lax ≤ strict) {actual expected : String}
    (accepted : strict.accepts actual expected = true) :
    lax.accepts actual expected = true := by
  cases lax with
  | off => rfl
  | ignoreCase =>
    cases strict with
    | off => exact absurd h (by decide)
    | ignoreCase => exact accepted
    | exact =>
      have same : actual = expected := beq_iff_eq.mp accepted
      simp [accepts, Text.sameIgnoringCase, same]
  | exact =>
    cases strict with
    | exact => exact accepted
    | off | ignoreCase => exact absurd h (by decide)

end NameMatching

instance : LE Strictness :=
  ⟨fun lax strict => (lax.requireStatic = true → strict.requireStatic = true) ∧
    lax.parameterNames ≤ strict.parameterNames⟩

instance (lax strict : Strictness) : Decidable (lax ≤ strict) :=
  inferInstanceAs (Decidable ((lax.requireStatic = true → strict.requireStatic = true) ∧
    lax.parameterNames ≤ strict.parameterNames))

namespace Method

variable {m : Method} {code : Code} {message : String} {place : Option Location}
  {lax strict : Strictness}

/-- Only two conditions depend on the strictness. -/
theorem Violates.of_other {s : Strictness} (h : m.Violates s code message place)
    (notStatic : code ≠ .mustBeStatic) (notName : code ≠ .invalidParameterName)
    (s' : Strictness) : m.Violates s' code message place := by
  cases h with
  | implemented has => exact .implemented has
  | notPartial has => exact .notPartial has
  | implementedElsewhere has => exact .implementedElsewhere has
  | noReceiver plain => exact .noReceiver plain
  | notStatic => exact absurd rfl notStatic
  | isVirtual has => exact .isVirtual has
  | isAbstract fine has => exact .isAbstract fine has
  | isAsync fine fine' has => exact .isAsync fine fine' has
  | parameterCount wrong => exact .parameterCount wrong
  | servicesType first wrong => exact .servicesType first wrong
  | lifetimeType second wrong => exact .lifetimeType second wrong
  | servicesName | lifetimeName => exact absurd rfl notName
  | returnType wrong => exact .returnType wrong
  | accessibility wrong => exact .accessibility wrong

/-- What violates a condition violates it also when that is checked more strictly, though another
part of the method may then be to blame. -/
theorem Violates.stricter (h : m.Violates lax code message place) (le : lax ≤ strict) :
    ∃ message' place', m.Violates strict code message' place' := by
  have misnamed {actual expected : String}
      (wrong : lax.parameterNames.accepts actual expected = false) :
      strict.parameterNames.accepts actual expected = false := by
    rw [Bool.eq_false_iff] at wrong ⊢
    exact mt (NameMatching.accepts_of_le le.2) wrong
  by_cases static : code = .mustBeStatic
  · subst static
    cases h with
    | notStatic asked instanced => exact ⟨_, _, .notStatic (le.1 asked) instanced⟩
  · by_cases named : code = .invalidParameterName
    · subst named
      cases h with
      | servicesName first wrong => exact ⟨_, _, .servicesName first (misnamed wrong)⟩
      | @lifetimeName p q first _ second wrong =>
        cases fine : strict.parameterNames.accepts p.name HostName.servicesParameter with
        | true => exact ⟨_, _, .lifetimeName first fine second (misnamed wrong)⟩
        | false => exact ⟨_, _, .servicesName first fine⟩
    · exact ⟨message, place, h.of_other static named strict⟩

/-- A method that conforms conforms also when less is asked of it. -/
theorem Conforms.laxer (h : m.Conforms strict) (le : lax ≤ strict) : m.Conforms lax := by
  apply conforms_of_not_violates
  intro code message place violated
  obtain ⟨message', place', violated'⟩ := violated.stricter le
  exact h.not_violates violated'

theorem validate_ok_of_le (le : lax ≤ strict) {p : ExtensionPoint}
    (accepted : m.validate strict = .ok p) : m.validate lax = .ok p := by
  obtain ⟨conforms, declared⟩ := validate_eq_ok_iff.mp accepted
  exact validate_eq_ok_iff.mpr ⟨conforms.laxer le, declared⟩

/-- The first violation under the strict one is no later than the one under the lax one, and it is
the same unless the strictness tells in it. -/
theorem validate_error_of_le (le : lax ≤ strict) {d : Diagnostic}
    (rejected : m.validate lax = .error d) :
    ∃ d', m.validate strict = .error d' ∧ d'.code.rank ≤ d.code.rank ∧
      (d'.code ≠ .mustBeStatic → d'.code ≠ .invalidParameterName → d' = d) := by
  cases result : m.validate strict with
  | ok p =>
    have accepted := validate_ok_of_le le result
    rw [rejected] at accepted
    cases accepted
  | error d' =>
    obtain ⟨code, message, place, ⟨violated, -⟩, rfl⟩ := validate_eq_error_iff.mp rejected
    obtain ⟨code', message', place', ⟨violated', first'⟩, rfl⟩ := validate_eq_error_iff.mp result
    refine ⟨_, rfl, ?_, ?_⟩
    · obtain ⟨_, _, both⟩ := violated.stricter le
      exact first' code _ _ both
    · intro notStatic notName
      -- The violation is there under the lax one too, and nothing earlier is.
      have first : m.FirstViolates lax code' message' place' := by
        refine ⟨violated'.of_other notStatic notName lax, ?_⟩
        intro other _ _ there
        obtain ⟨_, _, both⟩ := there.stricter le
        exact first' other _ _ both
      have same := validate_eq_error_iff.mpr ⟨code', message', place', first, rfl⟩
      exact Except.error.inj (same.symm.trans rejected)

end Method

/-- If `g` gives everything that `f` gives, what `f` keeps of a list is among what `g` keeps. -/
theorem filterMap_sublist_filterMap {f g : α → Option β} (h : ∀ a b, f a = some b → g a = some b)
    (as : List α) : (as.filterMap f).Sublist (as.filterMap g) := by
  induction as with
  | nil => exact .slnil
  | cons a as ih =>
    rw [List.filterMap_cons, List.filterMap_cons]
    cases found : f a with
    | some b =>
      rw [h a b found]
      exact ih.cons_cons b
    | none =>
      cases g a with
      | none => exact ih
      | some b => exact ih.cons b

namespace Report

variable {lax strict : Strictness}

/-- A stricter report has no other extension points, and those it has in the same order. -/
theorem points_sublist_of_le (le : lax ≤ strict) (methods : List Method) :
    (ofMethods strict methods).value.points.Sublist (ofMethods lax methods).value.points := by
  rw [value_ofMethods, value_ofMethods]
  apply filterMap_sublist_filterMap
  intro m p accepted
  cases result : m.validate strict with
  | error d => simp [result, Except.toOption] at accepted
  | ok q =>
    rw [Method.validate_ok_of_le le result]
    rw [result] at accepted
    exact accepted

/-- A laxer report complains of no other methods. -/
theorem rejected_sublist_of_le (le : lax ≤ strict) (methods : List Method) :
    ((ofMethods lax methods).value.diagnostics.map Diagnostic.method).Sublist
      ((ofMethods strict methods).value.diagnostics.map Diagnostic.method) := by
  rw [value_ofMethods, value_ofMethods, List.map_filterMap, List.map_filterMap]
  apply filterMap_sublist_filterMap
  intro m name rejected
  obtain ⟨d, found, rfl⟩ := Option.map_eq_some_iff.mp rejected
  have laxly := Method.rejection?_eq_some_iff.mp found
  obtain ⟨d', strictly, -⟩ := Method.validate_error_of_le le laxly
  rw [Method.rejection?_eq_some_iff.mpr strictly, (Method.validate_warns laxly).2]
  exact congrArg some (Method.validate_warns strictly).2

end Report

/-- Strictness is monotone. What a strict validation accepts a laxer one accepts as the same
extension point. What the laxer one rejects the strict one rejects too, with a code that is looked
at no later, and with the same diagnostic unless that is about static methods or about names. So of
every list of methods, the strict report has some of the extension points of the lax one, and the
lax report rejects some of the methods that the strict one rejects, each in declaration order. -/
theorem stricter_rejects_more {lax strict : Strictness} (le : lax ≤ strict) :
    (∀ m : Method,
        (∀ p, m.validate strict = .ok p → m.validate lax = .ok p) ∧
        ∀ d, m.validate lax = .error d →
          ∃ d', m.validate strict = .error d' ∧ d'.code.rank ≤ d.code.rank ∧
            (d'.code ≠ .mustBeStatic → d'.code ≠ .invalidParameterName → d' = d)) ∧
      ∀ methods : List Method,
        let laxly := (Report.ofMethods lax methods).value
        let strictly := (Report.ofMethods strict methods).value
        strictly.points.Sublist laxly.points ∧
          (laxly.diagnostics.map Diagnostic.method).Sublist
            (strictly.diagnostics.map Diagnostic.method) := by
  refine ⟨fun m => ⟨?_, ?_⟩, fun methods => ⟨?_, ?_⟩⟩
  · intro p accepted
    exact Method.validate_ok_of_le le accepted
  · intro d rejected
    exact Method.validate_error_of_le le rejected
  · exact Report.points_sublist_of_le le methods
  · exact Report.rejected_sublist_of_le le methods

/-- Three methods, validated at the two ends: one is not static, the names of one differ in case, and
one is neither static nor runs to its end. The strict validation rejects all of them, and the last
one for another reason than the lax one. -/
theorem stricter_rejects_more_sample :
    let lax : Strictness := ⟨false, .ignoreCase⟩
    let strict : Strictness := ⟨true, .exact⟩
    let fine := Sample.validExtensionPoint "A" "Ext" "Fine"
    let instanced := { fine with name := "Instanced", isStatic := false }
    let shouting := { fine with
      name := "Shouting"
      parameters := [.ofType "SERVICES" HostName.serviceCollection,
        .ofType "DEFAULTLIFETIME" HostName.serviceLifetime] }
    let waiting := { instanced with name := "Waiting", isAsync := true }
    let methods := [instanced, shouting, waiting]
    let laxly := (Report.ofMethods lax methods).value
    let strictly := (Report.ofMethods strict methods).value
    lax ≤ strict ∧
      (laxly.points.map ExtensionPoint.methodName = ["Instanced", "Shouting"] ∧
        laxly.diagnostics.map Diagnostic.code = [.unsupportedModifier] ∧
        strictly.points = [] ∧
        strictly.diagnostics.map Diagnostic.code =
          [.mustBeStatic, .invalidParameterName, .mustBeStatic]) ∧
      strictly.points.Sublist laxly.points ∧
      (laxly.diagnostics.map Diagnostic.method).Sublist
        (strictly.diagnostics.map Diagnostic.method) := by
  have le : (⟨false, .ignoreCase⟩ : Strictness) ≤ ⟨true, .exact⟩ := by decide
  exact ⟨le, by decide +kernel, (stricter_rejects_more le).2 _⟩

end HandlerWiring
