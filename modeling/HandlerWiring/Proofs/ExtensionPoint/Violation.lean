import Mathlib.Data.List.Forall2
import HandlerWiring.ExtensionPoint.Rule

/-!
# What the rules ask of a method

The conditions on an extension point, stated of the declaration and apart from the rules: what a
method has to be to conform to them, and for each code what it is to violate its condition, what is
then said, and which part of the method is to blame. Several conditions may be violated at once; the
one that is looked at first decides.

Each rule warns exactly of the violations of one code (`Rule.checks_all`). So trying the rules one
after the other accepts the methods that conform and rejects every other with the one warning about
its first violation. That a rule relies on the rules before it does not show: which methods a rule
lets pass is stated for all methods, also for those without parameters.
-/

namespace HandlerWiring

/-- A declared type is a well-known one, the blanks around it and one global alias aside. -/
def Spells (declared name : String) : Prop :=
  Text.trimmed declared = name ∨ Text.trimmed declared = "global::" ++ name

namespace Code

/-- The codes in the order in which their conditions are looked at. -/
def tried : List Code :=
  [.mustBePartial, .mustNotHaveImplementation, .mustBeExtensionMethod, .mustBeStatic,
    .unsupportedModifier, .invalidParameterCount, .invalidServicesParameterType,
    .invalidLifetimeParameterType, .invalidParameterName, .invalidReturnType,
    .invalidAccessibility]

/-- The place of a code in that order. -/
def rank (c : Code) : Nat := tried.idxOf c

theorem mem_tried (c : Code) : c ∈ tried := by cases c <;> decide

theorem tried_ascending : tried.Pairwise fun a b => a.rank < b.rank := by decide

/-- The order is not that of the numbers. -/
example : tried.map text =
    ["CQRSDI0001", "CQRSDI0002", "CQRSDI0003", "CQRSDI0010", "CQRSDI0008", "CQRSDI0004",
      "CQRSDI0005", "CQRSDI0006", "CQRSDI0011", "CQRSDI0007", "CQRSDI0009"] := rfl

end Code

namespace Method

/-- Everything that is asked of an extension point. -/
structure Conforms (s : Strictness) (m : Method) : Prop where
  completeness : m.completeness = .declaration
  extension : m.isExtension = true
  static : m.isStatic = true ∨ s.requireStatic = false
  modifiers : m.isVirtual = false ∧ m.isAbstract = false ∧ m.isAsync = false
  parameters : ∃ services lifetime, m.parameters = [services, lifetime] ∧
    Spells services.type HostName.serviceCollection ∧
    Spells lifetime.type HostName.serviceLifetime ∧
    s.parameterNames.accepts services.name HostName.servicesParameter = true ∧
    s.parameterNames.accepts lifetime.name HostName.lifetimeParameter = true
  returnType : Spells m.returnType HostName.serviceCollection
  accessibility : m.accessibility ≠ .protectedAccess ∧ m.accessibility ≠ .privateProtected ∧
    m.accessibility ≠ .protectedInternal

/-- A method violates the condition of a code, with what is said about it and, where a part of the
method is to blame, the location of that part. -/
inductive Violates (s : Strictness) (m : Method) : Code → String → Option Location → Prop
  | implemented (has : m.completeness = .implemented) :
    Violates s m .mustBePartial
      ("Method " ++ m.name ++ " must be an unimplemented \"partial\" method" ++ Rule.toUseMarker)
      none
  | notPartial (has : m.completeness = .notPartial) :
    Violates s m .mustBePartial
      ("Method " ++ m.name ++ " must be an unimplemented \"partial\" method" ++ Rule.toUseMarker)
      none
  | implementedElsewhere {body : Option Location}
      (has : m.completeness = .separateImplementation body) :
    Violates s m .mustNotHaveImplementation
      ("Method " ++ m.name ++ " must not have an implementation provided" ++ Rule.toUseMarker)
      body
  | noReceiver (plain : m.isExtension = false) :
    Violates s m .mustBeExtensionMethod
      ("Method " ++ m.name ++ " must be an extension method" ++ Rule.toUseMarker) none
  | notStatic (asked : s.requireStatic = true) (instanced : m.isStatic = false) :
    Violates s m .mustBeStatic
      ("Method " ++ m.name ++ " must be static" ++ Rule.toUseMarker) none
  | isVirtual (has : m.isVirtual = true) :
    Violates s m .unsupportedModifier
      ("Method " ++ m.name ++ " must not be " ++ "virtual" ++ Rule.toUseMarker) none
  | isAbstract (fine : m.isVirtual = false) (has : m.isAbstract = true) :
    Violates s m .unsupportedModifier
      ("Method " ++ m.name ++ " must not be " ++ "abstract" ++ Rule.toUseMarker) none
  | isAsync (fine : m.isVirtual = false) (fine' : m.isAbstract = false) (has : m.isAsync = true) :
    Violates s m .unsupportedModifier
      ("Method " ++ m.name ++ " must not be " ++ "async" ++ Rule.toUseMarker) none
  | parameterCount (wrong : m.parameters.length ≠ 2) :
    Violates s m .invalidParameterCount
      ("Method " ++ m.name ++ " signature must match (this IServiceCollection, ServiceLifetime)" ++
        Rule.toUseMarker)
      none
  | servicesType {p : Parameter} (first : m.parameters[0]? = some p)
      (wrong : ¬Spells p.type HostName.serviceCollection) :
    Violates s m .invalidServicesParameterType
      ("Parameter \"" ++ p.name ++ "\" must be of type \"IServiceCollection\"" ++
        Rule.toUseMarker)
      p.location
  | lifetimeType {p : Parameter} (second : m.parameters[1]? = some p)
      (wrong : ¬Spells p.type HostName.serviceLifetime) :
    Violates s m .invalidLifetimeParameterType
      ("Parameter \"" ++ p.name ++ "\" must be of type \"ServiceLifetime\"" ++ Rule.toUseMarker)
      p.location
  | servicesName {p : Parameter} (first : m.parameters[0]? = some p)
      (wrong : s.parameterNames.accepts p.name HostName.servicesParameter = false) :
    Violates s m .invalidParameterName
      ("Parameter \"" ++ p.name ++ "\" must be named \"" ++ HostName.servicesParameter ++ "\"" ++
        Rule.toUseMarker)
      p.location
  | lifetimeName {p q : Parameter} (first : m.parameters[0]? = some p)
      (fine : s.parameterNames.accepts p.name HostName.servicesParameter = true)
      (second : m.parameters[1]? = some q)
      (wrong : s.parameterNames.accepts q.name HostName.lifetimeParameter = false) :
    Violates s m .invalidParameterName
      ("Parameter \"" ++ q.name ++ "\" must be named \"" ++ HostName.lifetimeParameter ++ "\"" ++
        Rule.toUseMarker)
      q.location
  | returnType (wrong : ¬Spells m.returnType HostName.serviceCollection) :
    Violates s m .invalidReturnType
      ("Return type must be \"IServiceCollection\"" ++ Rule.toUseMarker) none
  | accessibility (wrong : m.accessibility = .protectedAccess ∨
      m.accessibility = .privateProtected ∨ m.accessibility = .protectedInternal) :
    Violates s m .invalidAccessibility
      ("Method " ++ m.name ++ " must not be " ++ m.accessibility.text ++ Rule.toUseMarker) none

/-- A violation is the first one: no condition that is looked at earlier is violated. -/
structure FirstViolates (s : Strictness) (m : Method) (code : Code) (message : String)
    (place : Option Location) : Prop where
  violates : m.Violates s code message place
  first : ∀ other message' place', m.Violates s other message' place' → code.rank ≤ other.rank

end Method

/-! ## One rule -/

/-- Cutting the alias off and comparing is looking for one of two spellings, unless the well-known
name has an alias itself. -/
theorem isType_iff {declared name : String} (bare : ¬"global::".toList <+: name.toList) :
    Rule.isType declared name = true ↔ Spells declared name := by
  have spelt (t : String) : Text.trimmed declared = t ↔ Text.trim declared.toList = t.toList := by
    rw [← String.toList_inj, Text.trimmed, String.toList_ofList]
  rw [Rule.isType, beq_iff_eq, withoutAlias, Spells, spelt, spelt, String.toList_append]
  generalize Text.trim declared.toList = text
  by_cases qualified : "global::".toList.isPrefixOf text = true
  · obtain ⟨rest, rfl⟩ := List.isPrefixOf_iff_prefix.mp qualified
    rw [if_pos qualified, List.drop_left, List.append_right_inj]
    refine ⟨.inr, fun either => either.resolve_left fun same => bare ?_⟩
    exact same ▸ List.prefix_append _ _
  · rw [if_neg qualified]
    refine ⟨.inl, fun either => either.resolve_right fun same => qualified ?_⟩
    exact List.isPrefixOf_iff_prefix.mpr (same ▸ List.prefix_append _ _)

theorem isType_serviceCollection {declared : String} :
    Rule.isType declared HostName.serviceCollection = true ↔
      Spells declared HostName.serviceCollection :=
  isType_iff (by decide)

theorem isType_serviceLifetime {declared : String} :
    Rule.isType declared HostName.serviceLifetime = true ↔
      Spells declared HostName.serviceLifetime :=
  isType_iff (by decide)

namespace Rule

/-- A rule warns of the violations of a code, and of nothing else. -/
def Checks (rule : Rule) (code : Code) : Prop :=
  ∀ s m d, rule s m = some d ↔ ∃ message place, m.Violates s code message place ∧
    d = .warn code m.qualifiedName message (place <|> m.location)

/-- A rule says nothing just where its code is not violated. -/
theorem Checks.eq_none_iff {rule : Rule} {code : Code} (h : Checks rule code) {s : Strictness}
    {m : Method} : rule s m = none ↔ ∀ message place, ¬m.Violates s code message place := by
  rw [Option.eq_none_iff_forall_ne_some]
  constructor
  · intro silent message place violated
    exact silent _ ((h s m _).mpr ⟨message, place, violated, rfl⟩)
  · intro kept d warned
    obtain ⟨message, place, violated, -⟩ := (h s m d).mp warned
    exact kept message place violated

/-- A rule about a method as a whole: it warns where the method is not fine. -/
theorem Checks.of_reject {rule : Rule} {code : Code} {message : Method → String}
    (fine : Strictness → Method → Prop) [∀ s m, Decidable (fine s m)]
    (shape : ∀ s m, rule s m = if fine s m then none else reject m code (message m))
    (violates : ∀ {s m text place}, m.Violates s code text place ↔
      ¬fine s m ∧ text = message m ∧ place = none) : Checks rule code := by
  intro s m d
  rw [shape]
  split
  · next kept =>
    refine ⟨fun warned => (nomatch warned), ?_⟩
    rintro ⟨text, place, violated, -⟩
    exact absurd kept (violates.mp violated).1
  · next broken =>
    constructor
    · intro warned
      exact ⟨_, _, violates.mpr ⟨broken, rfl, rfl⟩, (Option.some.inj warned).symm⟩
    · rintro ⟨text, place, violated, rfl⟩
      obtain ⟨-, rfl, rfl⟩ := violates.mp violated
      rfl

theorem mustBePartial_checks : Checks mustBePartial .mustBePartial := by
  intro s m d
  constructor
  · intro warned
    unfold mustBePartial at warned
    split at warned
    · next has => exact ⟨_, _, .implemented has, (Option.some.inj warned).symm⟩
    · next has => exact ⟨_, _, .notPartial has, (Option.some.inj warned).symm⟩
    · cases warned
    · cases warned
  · rintro ⟨message, place, violated, rfl⟩
    cases violated with
    | implemented has | notPartial has =>
      rw [mustBePartial, has]
      rfl

theorem mustNotHaveImplementation_checks :
    Checks mustNotHaveImplementation .mustNotHaveImplementation := by
  intro s m d
  constructor
  · intro warned
    unfold mustNotHaveImplementation at warned
    split at warned
    · next has => exact ⟨_, _, .implementedElsewhere has, (Option.some.inj warned).symm⟩
    · cases warned
    · cases warned
    · cases warned
  · rintro ⟨message, place, violated, rfl⟩
    cases violated with
    | implementedElsewhere has => rw [mustNotHaveImplementation, has]

theorem mustBeExtensionMethod_checks : Checks mustBeExtensionMethod .mustBeExtensionMethod := by
  refine .of_reject (fun _ m => m.isExtension = true) (fun s m => rfl) ?_
  intro s m text place
  rw [Bool.not_eq_true]
  constructor
  · intro violated
    cases violated with
    | noReceiver plain => exact ⟨plain, rfl, rfl⟩
  · rintro ⟨plain, rfl, rfl⟩
    exact .noReceiver plain

theorem mustBeStatic_checks : Checks mustBeStatic .mustBeStatic := by
  refine .of_reject (fun s m => ¬(s.requireStatic && !m.isStatic) = true)
    (fun s m => (ite_not _ _ _).symm) ?_
  intro s m text place
  rw [Decidable.not_not, Bool.and_eq_true, Bool.not_eq_true']
  constructor
  · intro violated
    cases violated with
    | notStatic asked instanced => exact ⟨⟨asked, instanced⟩, rfl, rfl⟩
  · rintro ⟨⟨asked, instanced⟩, rfl, rfl⟩
    exact .notStatic asked instanced

theorem noUnsupportedModifier_checks : Checks noUnsupportedModifier .unsupportedModifier := by
  intro s m d
  unfold noUnsupportedModifier unsupportedModifier?
  constructor
  · intro warned
    split at warned
    · next modifier found =>
      cases Option.some.inj warned
      split at found
      · next has =>
        cases found
        exact ⟨_, _, .isVirtual has, rfl⟩
      · next fine =>
        split at found
        · next has =>
          cases found
          exact ⟨_, _, .isAbstract (Bool.eq_false_iff.mpr fine) has, rfl⟩
        · next fine' =>
          split at found
          · next has =>
            cases found
            exact ⟨_, _, .isAsync (Bool.eq_false_iff.mpr fine)
              (Bool.eq_false_iff.mpr fine') has, rfl⟩
          · cases found
    · cases warned
  · rintro ⟨message, place, violated, rfl⟩
    cases violated with
    | isVirtual has =>
      rw [has]
      rfl
    | isAbstract fine has =>
      rw [fine, has]
      rfl
    | isAsync fine fine' has =>
      rw [fine, fine', has]
      rfl

theorem twoParameters_checks : Checks twoParameters .invalidParameterCount := by
  refine .of_reject (fun _ m => m.parameters.length = 2) (fun s m => rfl) ?_
  intro s m text place
  constructor
  · intro violated
    cases violated with
    | parameterCount wrong => exact ⟨wrong, rfl, rfl⟩
  · rintro ⟨wrong, rfl, rfl⟩
    exact .parameterCount wrong

theorem servicesParameterType_checks :
    Checks servicesParameterType .invalidServicesParameterType := by
  intro s m d
  unfold servicesParameterType
  constructor
  · intro warned
    split at warned
    · next p rest parameters =>
      split at warned
      · cases warned
      · next wrong =>
        rw [isType_serviceCollection] at wrong
        have first : m.parameters[0]? = some p := by simp [parameters]
        exact ⟨_, _, .servicesType first wrong, (Option.some.inj warned).symm⟩
    · cases warned
  · rintro ⟨message, place, violated, rfl⟩
    cases violated with
    | servicesType first wrong =>
      rw [← isType_serviceCollection] at wrong
      match parameters : m.parameters, first with
      | p :: rest, first =>
        cases first
        exact if_neg wrong

theorem lifetimeParameterType_checks :
    Checks lifetimeParameterType .invalidLifetimeParameterType := by
  intro s m d
  unfold lifetimeParameterType
  constructor
  · intro warned
    split at warned
    · next first p rest parameters =>
      split at warned
      · cases warned
      · next wrong =>
        rw [isType_serviceLifetime] at wrong
        have second : m.parameters[1]? = some p := by simp [parameters]
        exact ⟨_, _, .lifetimeType second wrong, (Option.some.inj warned).symm⟩
    · cases warned
  · rintro ⟨message, place, violated, rfl⟩
    cases violated with
    | lifetimeType second wrong =>
      rw [← isType_serviceLifetime] at wrong
      match parameters : m.parameters, second with
      | _ :: p :: rest, second =>
        cases second
        exact if_neg wrong

/-- The misnamed parameter is the first one, or the second one behind a fine first one. -/
theorem misnamed?_eq_some_iff {matching : NameMatching} {parameters : List Parameter}
    {p : Parameter} {expected : String} :
    misnamed? matching parameters = some (p, expected) ↔
      (parameters[0]? = some p ∧ expected = HostName.servicesParameter ∧
          matching.accepts p.name HostName.servicesParameter = false) ∨
        ∃ first, parameters[0]? = some first ∧
          matching.accepts first.name HostName.servicesParameter = true ∧
          parameters[1]? = some p ∧ expected = HostName.lifetimeParameter ∧
          matching.accepts p.name HostName.lifetimeParameter = false := by
  unfold misnamed?
  cases parameters with
  | nil => simp
  | cons first rest =>
    cases rest with
    | nil => grind
    | cons second rest => grind

theorem parameterNames_checks : Checks parameterNames .invalidParameterName := by
  intro s m d
  unfold parameterNames
  constructor
  · intro warned
    split at warned
    · next p expected found =>
      cases Option.some.inj warned
      rcases misnamed?_eq_some_iff.mp found with
        ⟨first, rfl, wrong⟩ | ⟨_, first, fine, second, rfl, wrong⟩
      · exact ⟨_, _, .servicesName first wrong, rfl⟩
      · exact ⟨_, _, .lifetimeName first fine second wrong, rfl⟩
    · cases warned
  · rintro ⟨message, place, violated, rfl⟩
    cases violated with
    | servicesName first wrong =>
      rw [misnamed?_eq_some_iff.mpr (.inl ⟨first, rfl, wrong⟩)]
      rfl
    | lifetimeName first fine second wrong =>
      rw [misnamed?_eq_some_iff.mpr (.inr ⟨_, first, fine, second, rfl, wrong⟩)]
      rfl

theorem returnsServiceCollection_checks : Checks returnsServiceCollection .invalidReturnType := by
  refine .of_reject
    (fun _ m => isType m.returnType HostName.serviceCollection = true) (fun s m => rfl) ?_
  intro s m text place
  rw [isType_serviceCollection]
  constructor
  · intro violated
    cases violated with
    | returnType wrong => exact ⟨wrong, rfl, rfl⟩
  · rintro ⟨wrong, rfl, rfl⟩
    exact .returnType wrong

theorem isProtected_iff {a : Accessibility} : a.isProtected = true ↔
    a = .protectedAccess ∨ a = .privateProtected ∨ a = .protectedInternal := by
  cases a <;> decide

theorem notProtected_checks : Checks notProtected .invalidAccessibility := by
  refine .of_reject (fun _ m => ¬m.accessibility.isProtected = true)
    (fun s m => (ite_not _ _ _).symm) ?_
  intro s m text place
  rw [Decidable.not_not, isProtected_iff]
  constructor
  · intro violated
    cases violated with
    | accessibility wrong => exact ⟨wrong, rfl, rfl⟩
  · rintro ⟨wrong, rfl, rfl⟩
    exact .accessibility wrong

/-- The rules check the codes, one each and in the same order. -/
theorem checks_all : List.Forall₂ Checks all Code.tried :=
  .cons mustBePartial_checks <| .cons mustNotHaveImplementation_checks <|
  .cons mustBeExtensionMethod_checks <| .cons mustBeStatic_checks <|
  .cons noUnsupportedModifier_checks <| .cons twoParameters_checks <|
  .cons servicesParameterType_checks <| .cons lifetimeParameterType_checks <|
  .cons parameterNames_checks <| .cons returnsServiceCollection_checks <|
  .cons notProtected_checks .nil

/-! ## All rules -/

/-- Rules tried one after the other find the violation whose code comes first among theirs. -/
theorem findSome?_eq_some_iff {rules : List Rule} {codes : List Code}
    (checks : List.Forall₂ Checks rules codes)
    (ascending : codes.Pairwise fun a b => a.rank < b.rank) (s : Strictness) (m : Method)
    (d : Diagnostic) :
    rules.findSome? (fun rule => rule s m) = some d ↔
      ∃ code message place, m.Violates s code message place ∧ code ∈ codes ∧
        (∀ other message' place', m.Violates s other message' place' → other ∈ codes →
          code.rank ≤ other.rank) ∧
        d = .warn code m.qualifiedName message (place <|> m.location) := by
  induction checks with
  | nil => simp
  | @cons rule code rules codes here _ ih =>
    obtain ⟨before, ascending⟩ := List.pairwise_cons.mp ascending
    rw [List.findSome?_cons]
    cases verdict : rule s m with
    | none =>
      have kept := here.eq_none_iff.mp verdict
      rw [ih ascending]
      constructor
      · rintro ⟨found, message, place, violated, among, first, rfl⟩
        refine ⟨found, message, place, violated, List.mem_cons_of_mem _ among, ?_, rfl⟩
        intro other message' place' violated' among'
        rcases List.mem_cons.mp among' with rfl | among'
        · exact absurd violated' (kept _ _)
        · exact first other message' place' violated' among'
      · rintro ⟨found, message, place, violated, among, first, rfl⟩
        rcases List.mem_cons.mp among with rfl | among
        · exact absurd violated (kept _ _)
        · exact ⟨found, message, place, violated, among, fun other message' place' violated' there =>
            first other message' place' violated' (List.mem_cons_of_mem _ there), rfl⟩
    | some d' =>
      obtain ⟨message, place, violated, rfl⟩ := (here s m d').mp verdict
      constructor
      · intro same
        refine ⟨code, message, place, violated, List.mem_cons_self, ?_,
          (Option.some.inj same).symm⟩
        intro other message' place' _ among
        rcases List.mem_cons.mp among with rfl | among
        · exact Nat.le_refl _
        · exact Nat.le_of_lt (before other among)
      · rintro ⟨found, message', place', violated', among, first, rfl⟩
        rcases List.mem_cons.mp among with rfl | among
        · have warned := (here s m _).mpr ⟨message', place', violated', rfl⟩
          exact verdict.symm.trans warned
        · have later := before found among
          have earlier := first code message place violated List.mem_cons_self
          omega

theorem firstViolation_eq_some_iff {s : Strictness} {m : Method} {d : Diagnostic} :
    firstViolation s m = some d ↔ ∃ code message place, m.FirstViolates s code message place ∧
      d = .warn code m.qualifiedName message (place <|> m.location) := by
  rw [firstViolation, findSome?_eq_some_iff checks_all Code.tried_ascending]
  constructor
  · rintro ⟨code, message, place, violated, -, first, rfl⟩
    exact ⟨code, message, place, ⟨violated, fun other message' place' violated' =>
      first other message' place' violated' other.mem_tried⟩, rfl⟩
  · rintro ⟨code, message, place, ⟨violated, first⟩, rfl⟩
    exact ⟨code, message, place, violated, code.mem_tried, fun other message' place' violated' _ =>
      first other message' place' violated', rfl⟩

theorem firstViolation_eq_none_iff {s : Strictness} {m : Method} :
    firstViolation s m = none ↔ ∀ code message place, ¬m.Violates s code message place := by
  have each {rules : List Rule} {codes : List Code} (checks : List.Forall₂ Checks rules codes) :
      (∀ rule ∈ rules, rule s m = none) ↔
        ∀ code ∈ codes, ∀ message place, ¬m.Violates s code message place := by
    induction checks with
    | nil => simp
    | cons here _ ih => rw [List.forall_mem_cons, List.forall_mem_cons, here.eq_none_iff, ih]
  rw [firstViolation, List.findSome?_eq_none_iff, each checks_all]
  exact ⟨fun kept code => kept code code.mem_tried, fun kept code _ => kept code⟩

end Rule

namespace Method

/-- A method that conforms violates no condition. -/
theorem Conforms.not_violates {s : Strictness} {m : Method} (h : m.Conforms s) {code : Code}
    {message : String} {place : Option Location} : ¬m.Violates s code message place := by
  obtain ⟨services, lifetime, parameters, servicesType, lifetimeType, servicesName,
    lifetimeName⟩ := h.parameters
  have first : m.parameters[0]? = some services := by simp [parameters]
  have second : m.parameters[1]? = some lifetime := by simp [parameters]
  intro violated
  cases violated with
  | implemented has | notPartial has | implementedElsewhere has =>
    rw [h.completeness] at has
    cases has
  | noReceiver plain => simp [h.extension] at plain
  | notStatic asked instanced => simpa [asked, instanced] using h.static
  | isVirtual has => simp [h.modifiers.1] at has
  | isAbstract _ has => simp [h.modifiers.2.1] at has
  | isAsync _ _ has => simp [h.modifiers.2.2] at has
  | parameterCount wrong => simp [parameters] at wrong
  | servicesType there wrong =>
    cases first.symm.trans there
    exact wrong servicesType
  | lifetimeType there wrong =>
    cases second.symm.trans there
    exact wrong lifetimeType
  | servicesName there wrong =>
    cases first.symm.trans there
    simp [servicesName] at wrong
  | lifetimeName _ _ there wrong =>
    cases second.symm.trans there
    simp [lifetimeName] at wrong
  | returnType wrong => exact wrong h.returnType
  | accessibility wrong =>
    obtain ⟨notProtected, notPrivate, notInternal⟩ := h.accessibility
    rcases wrong with has | has | has
    · exact notProtected has
    · exact notPrivate has
    · exact notInternal has

/-- A method that violates no condition conforms. -/
theorem conforms_of_not_violates {s : Strictness} {m : Method}
    (kept : ∀ code message place, ¬m.Violates s code message place) : m.Conforms s where
  completeness := by
    cases has : m.completeness with
    | declaration => rfl
    | notPartial => exact absurd (.notPartial has) (kept _ _ _)
    | implemented => exact absurd (.implemented has) (kept _ _ _)
    | separateImplementation body => exact absurd (.implementedElsewhere has) (kept _ _ _)
  extension := by
    by_contra plain
    exact kept _ _ _ (.noReceiver (Bool.eq_false_iff.mpr plain))
  static := by
    by_contra neither
    obtain ⟨instanced, asked⟩ := not_or.mp neither
    exact kept _ _ _ (.notStatic (Bool.not_eq_false _ ▸ asked) (Bool.eq_false_iff.mpr instanced))
  modifiers := by
    have fine : m.isVirtual = false := Bool.eq_false_iff.mpr fun has => kept _ _ _ (.isVirtual has)
    have fine' : m.isAbstract = false :=
      Bool.eq_false_iff.mpr fun has => kept _ _ _ (.isAbstract fine has)
    exact ⟨fine, fine', Bool.eq_false_iff.mpr fun has => kept _ _ _ (.isAsync fine fine' has)⟩
  parameters := by
    have two : m.parameters.length = 2 := by
      by_contra wrong
      exact kept _ _ _ (.parameterCount wrong)
    obtain ⟨services, lifetime, parameters⟩ := List.length_eq_two.mp two
    have first : m.parameters[0]? = some services := by simp [parameters]
    have second : m.parameters[1]? = some lifetime := by simp [parameters]
    have named : s.parameterNames.accepts services.name HostName.servicesParameter = true := by
      by_contra wrong
      exact kept _ _ _ (.servicesName first (Bool.eq_false_iff.mpr wrong))
    refine ⟨services, lifetime, parameters, ?_, ?_, named, ?_⟩
    · by_contra wrong
      exact kept _ _ _ (.servicesType first wrong)
    · by_contra wrong
      exact kept _ _ _ (.lifetimeType second wrong)
    · by_contra wrong
      exact kept _ _ _ (.lifetimeName first named second (Bool.eq_false_iff.mpr wrong))
  returnType := by
    by_contra wrong
    exact kept _ _ _ (.returnType wrong)
  accessibility := by
    refine ⟨fun has => ?_, fun has => ?_, fun has => ?_⟩
    · exact kept _ _ _ (.accessibility (.inl has))
    · exact kept _ _ _ (.accessibility (.inr (.inl has)))
    · exact kept _ _ _ (.accessibility (.inr (.inr has)))

theorem firstViolation_eq_none_iff_conforms {s : Strictness} {m : Method} :
    Rule.firstViolation s m = none ↔ m.Conforms s := by
  rw [Rule.firstViolation_eq_none_iff]
  exact ⟨conforms_of_not_violates, fun h _ _ _ => h.not_violates⟩

/-! ## Validation -/

/-- A conforming method declares the extension point of its two parameters. -/
theorem validate_eq_ok_iff {s : Strictness} {m : Method} {p : ExtensionPoint} :
    m.validate s = .ok p ↔ m.Conforms s ∧ ∃ services lifetime,
      m.parameters = [services, lifetime] ∧ p = .ofMethod m services lifetime := by
  constructor
  · intro accepted
    unfold validate at accepted
    split at accepted
    · cases accepted
    · next kept =>
      split at accepted
      · next services lifetime parameters =>
        exact ⟨firstViolation_eq_none_iff_conforms.mp kept, services, lifetime, parameters,
          (Except.ok.inj accepted).symm⟩
      · cases accepted
  · rintro ⟨conforms, services, lifetime, parameters, rfl⟩
    unfold validate
    rw [firstViolation_eq_none_iff_conforms.mpr conforms, parameters]

/-- The rejection of a method is the warning about its first violation. The last resort of the
validation, a wrong number of parameters that no rule has found, is never taken. -/
theorem validate_eq_error_iff {s : Strictness} {m : Method} {d : Diagnostic} :
    m.validate s = .error d ↔ ∃ code message place, m.FirstViolates s code message place ∧
      d = .warn code m.qualifiedName message (place <|> m.location) := by
  rw [← Rule.firstViolation_eq_some_iff]
  unfold validate
  cases found : Rule.firstViolation s m with
  | some d' => simp
  | none =>
    obtain ⟨services, lifetime, parameters, -⟩ :=
      (firstViolation_eq_none_iff_conforms.mp found).parameters
    simp [parameters]

end Method

/-- The rules come to their specification, for every method and every strictness. Accepted are the
methods that conform. Every other method is rejected, with exactly one warning: it has the code of
the first condition that is violated, the qualified name of the method, and the location of the
part to blame or else that of the method. -/
theorem rules_report_first_violation (s : Strictness) (m : Method) :
    ((∃ p, m.validate s = .ok p) ↔ m.Conforms s) ∧
      ∀ d, m.validate s = .error d ↔ ∃ code message place,
        m.FirstViolates s code message place ∧
          d =
            { code, severity := .warning, message, method := m.qualifiedName
              location := place <|> m.location } := by
  refine ⟨⟨?_, ?_⟩, fun d => Method.validate_eq_error_iff⟩
  · rintro ⟨p, accepted⟩
    exact (Method.validate_eq_ok_iff.mp accepted).1
  · intro conforms
    obtain ⟨services, lifetime, parameters, -⟩ := conforms.parameters
    exact ⟨_, Method.validate_eq_ok_iff.mpr ⟨conforms, services, lifetime, parameters, rfl⟩⟩

/-- An asynchronous instance method without parameters that returns nothing violates four
conditions; that it has to be static is looked at first. -/
example :
    Method.validate .standard { Method.ofName "AddCqrs" "Ext" with
      isExtension := true, isAsync := true, location := some ⟨"Ext.cs", 10, 5⟩ } =
      .error (.warn .mustBeStatic "Ext.AddCqrs"
        "Method AddCqrs must be static to use ServiceInjectionPointAttribute."
        (some ⟨"Ext.cs", 10, 5⟩)) := rfl

end HandlerWiring
