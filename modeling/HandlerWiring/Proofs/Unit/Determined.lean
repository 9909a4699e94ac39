import HandlerWiring.Proofs.Unit.Reading
import HandlerWiring.Proofs.Unit.Synthesized

/-!
# What a source determines

The source of a unit tells what its methods register, whether they complete extension points or
are synthesized. Two units of one source therefore have as many methods, with the same names for
receiver and lifetime, and register the same pairs in the same order.

The source does not tell the shape of a handler, nor how its interface was spelt in the snapshot.
-/

namespace HandlerWiring

namespace Unit

/-! ## What is printed can be read -/

/-- No class is declared with a keyword that begins like that of a namespace. -/
theorem modified_of_keyword {keyword : String}
    (known : keyword = "public" ∨ keyword = "internal" ∨ keyword = "static partial class")
    (parts : List String) :
    ∃ c cs, (modifiers (keyword :: parts)).toList = c :: cs ∧ c ≠ 'n' := by
  have nonempty : keyword ≠ "" := by
    rcases known with rfl | rfl | rfl
    all_goals decide
  obtain ⟨behind, spelt⟩ := toList_modifiers_cons nonempty parts
  rcases known with rfl | rfl | rfl
  · exact ⟨'p', _, spelt, by decide⟩
  · exact ⟨'i', _, spelt, by decide⟩
  · exact ⟨'s', _, spelt, by decide⟩

end Unit

theorem isWord_servicesParameter : IsWord HostName.servicesParameter :=
  isWord_of_isIdentifier (by decide +kernel)

theorem isWord_lifetimeParameter : IsWord HostName.lifetimeParameter :=
  isWord_of_isIdentifier (by decide +kernel)

/-- An extension point whose texts are lines and whose parameters are words. -/
structure ExtensionPoint.Legible (p : ExtensionPoint) : Prop where
  namespaceName : OneLine p.namespaceName
  className : OneLine p.className
  methodName : OneLine p.methodName
  servicesParameter : IsWord p.servicesParameter
  lifetimeParameter : IsWord p.lifetimeParameter

namespace Unit.MethodText

theorem legible_ofPoint {p : ExtensionPoint} (h : p.Legible) : (ofPoint p).Legible where
  namespaceName := h.namespaceName
  classDeclaration := not_mem_ofPoint_classDeclaration lineFeed_mem h.className
  methodModifiers := not_mem_ofPoint_methodModifiers lineFeed_mem p
  methodName := h.methodName
  services := h.servicesParameter
  lifetime := h.lifetimeParameter
  modified := by
    unfold ofPoint
    cases p.classAccessibility with
    | publicAccess => exact modified_of_keyword (.inl rfl) _
    | internalAccess => exact modified_of_keyword (.inr (.inl rfl)) _
    | protectedAccess | privateProtected | protectedInternal | privateAccess =>
      exact modified_of_keyword (.inr (.inr rfl)) [p.className]

theorem legible_ofNames {n : Names} (h : n.Plain) {methodName : String}
    (named : OneLine methodName) : (ofNames n methodName).Legible where
  namespaceName := h.markFree.2.2.oneLine
  classDeclaration := not_mem_ofNames_classDeclaration lineFeed_mem h.markFree.1.oneLine
    h.className.oneLine methodName
  methodModifiers := not_mem_ofNames_methodModifiers lineFeed_mem h.markFree.1.oneLine methodName
  methodName := named
  services := isWord_servicesParameter
  lifetime := isWord_lifetimeParameter
  modified := modified_of_keyword (h.accessModifier.imp_right .inl) _

end Unit.MethodText

namespace Unit

/-! ## What a body tells -/

/-- The pairs that a method registers, in their order. -/
def Body.pairs (b : Body) : List (String × String) :=
  b.statements.map fun s => (s.serviceType, s.implementation)

/-- The receiver that a method returns, and the lifetime of its first statement. -/
def Body.parameters (b : Body) : String × String :=
  (b.returned, (b.statements.map (·.lifetime)).headD "")

end Unit

/-- What a registration pairs. -/
def Registration.pair (r : Registration) : String × String := (r.serviceType, r.implementation)

namespace Unit

theorem Body.pairs_adding (registrations : List Registration) (names : String × String) :
    (adding registrations names).pairs = registrations.map Registration.pair := by
  rw [pairs, adding, List.map_map]
  rfl

theorem Body.parameters_adding {registrations : List Registration} (nonempty : registrations ≠ [])
    (names : String × String) : (adding registrations names).parameters = names := by
  obtain ⟨r, rest, rfl⟩ := List.exists_cons_of_ne_nil nonempty
  rfl

/-- Bodies that add registrations tell the names of the parameters and the pairs. -/
theorem adding_inj {registrations registrations' : List Registration}
    (nonempty : registrations ≠ []) (nonempty' : registrations' ≠ [])
    {names names' : List (String × String)} (methods : names ≠ [])
    (same : names.map (Body.adding registrations) = names'.map (Body.adding registrations')) :
    names = names' ∧ registrations.map Registration.pair = registrations'.map Registration.pair := by
  have parameters := congrArg (List.map Body.parameters) same
  simp only [List.map_map, Function.comp_def, Body.parameters_adding nonempty,
    Body.parameters_adding nonempty', List.map_id'] at parameters
  subst parameters
  obtain ⟨first, rest, rfl⟩ := List.exists_cons_of_ne_nil methods
  have pairs := congrArg Body.pairs (List.cons.inj same).1
  rw [Body.pairs_adding, Body.pairs_adding] at pairs
  exact ⟨rfl, pairs⟩

/-! ## What a source does not tell -/

theorem map_registrationText_congr (services lifetime : String) :
    ∀ {registrations registrations' : List Registration},
      registrations.map Registration.pair = registrations'.map Registration.pair →
        registrations.map (registrationText · services lifetime) =
          registrations'.map (registrationText · services lifetime)
  | [], [], _ => rfl
  | r :: rest, r' :: rest', same => by
    obtain ⟨first, others⟩ := List.cons.inj same
    obtain ⟨serviceType, implementation⟩ := Prod.mk.inj first
    have text : registrationText r services lifetime = registrationText r' services lifetime := by
      rw [registrationText, registrationText, serviceType, implementation]
    rw [List.map_cons, List.map_cons, text, map_registrationText_congr services lifetime others]

/-- Of the registrations a unit has nothing but the pairs. -/
theorem unitText_congr {registrations registrations' : List Registration}
    (same : registrations.map Registration.pair = registrations'.map Registration.pair)
    (methods : List MethodText) :
    unitText methods registrations = unitText methods registrations' := by
  have body (m : MethodText) (depth : Nat) :
      m.bodyLines registrations depth = m.bodyLines registrations' depth := by
    have texts := congrArg (List.map (lineText depth))
      (map_registrationText_congr m.services m.lifetime same)
    rw [List.map_map, List.map_map] at texts
    exact congrArg (· ++ _) texts
  simp only [unitText_eq, MethodText.block, MethodText.classBlock, body]

/-! ## The source of a unit -/

/-- The names of receiver and lifetime in each method of a unit: those of the extension points, or
the standard ones in the one method that is synthesized if there are none. -/
def parameterNames : List ExtensionPoint → List (String × String)
  | [] => [(HostName.servicesParameter, HostName.lifetimeParameter)]
  | first :: rest => (first :: rest).map fun p => (p.servicesParameter, p.lifetimeParameter)

theorem parameterNames_ne_nil : ∀ points : List ExtensionPoint, parameterNames points ≠ []
  | [] => List.cons_ne_nil _ _
  | _ :: _ => List.cons_ne_nil _ _

/-- Registrations and extension points that can be read back. -/
structure Legible (registrations : List Registration) (points : List ExtensionPoint) : Prop where
  registrations : ∀ r ∈ registrations, r.Legible
  points : ∀ p ∈ points, p.Legible

/-- The source of a unit tells the bodies of its methods. -/
theorem bodies?_of_emit? {registrations : List Registration} {points : List ExtensionPoint}
    {names : Names} {u : GeneratedUnit}
    (emitted : GeneratedUnit.emit? registrations points names = some u)
    (legible : Legible registrations points) (plain : names.Plain) :
    bodies? u.source = some ((parameterNames points).map (.adding registrations)) := by
  unfold GeneratedUnit.emit? at emitted
  split at emitted
  · cases emitted
  · cases points with
    | nil =>
      cases emitted
      have synthesized : ∀ m ∈ [MethodText.ofNames names GeneratedUnit.synthesizedMethodName],
          m.Legible := by
        intro m among
        obtain rfl := List.mem_singleton.mp among
        exact MethodText.legible_ofNames plain (by decide)
      exact bodies?_unitText synthesized legible.registrations
    | cons first rest =>
      cases emitted
      have completed : ∀ m ∈ (first :: rest).map MethodText.ofPoint, m.Legible := by
        intro m among
        obtain ⟨p, member, rfl⟩ := List.mem_map.mp among
        exact MethodText.legible_ofPoint (legible.points p member)
      have read := bodies?_unitText completed legible.registrations
      rw [List.map_map] at read
      rw [parameterNames, List.map_map]
      exact read

theorem ne_nil_of_emit? {registrations : List Registration} {points : List ExtensionPoint}
    {names : Names} {u : GeneratedUnit}
    (emitted : GeneratedUnit.emit? registrations points names = some u) : registrations ≠ [] := by
  rintro rfl
  cases emitted

end Unit

/-- Registrations of the same pairs give the same unit. -/
theorem GeneratedUnit.emit?_congr {registrations registrations' : List Registration}
    (same : registrations.map Registration.pair = registrations'.map Registration.pair)
    (points : List ExtensionPoint) (names : Names) :
    emit? registrations points names = emit? registrations' points names := by
  have empty : registrations.isEmpty = registrations'.isEmpty := by
    rw [← List.isEmpty_map, same, List.isEmpty_map]
  unfold emit? Unit.completion Unit.synthesized
  simp only [empty, Unit.unitText_congr same]

/-- The source of a unit tells its methods: for each extension point, or for the one method that is
synthesized, a body that adds the registrations to the receiver in their order, each under the name
of the lifetime, and returns the receiver directly behind the last. So units of one source have as
many methods, which name receiver and lifetime alike and register the same pairs in the same
order. -/
theorem source_determines_registrations {registrations registrations' : List Registration}
    {points points' : List ExtensionPoint} {sources sources' : Sources} {u u' : GeneratedUnit}
    (emitted : GeneratedUnit.emit? registrations points (Names.resolve sources).value = some u)
    (emitted' : GeneratedUnit.emit? registrations' points' (Names.resolve sources').value = some u')
    (legible : Unit.Legible registrations points)
    (legible' : Unit.Legible registrations' points') :
    Unit.bodies? u.source = some ((Unit.parameterNames points).map (.adding registrations)) ∧
      (u.source = u'.source →
        Unit.parameterNames points = Unit.parameterNames points' ∧
          registrations.map Registration.pair = registrations'.map Registration.pair) := by
  have read := Unit.bodies?_of_emit? emitted legible (Names.plain_resolve sources)
  have read' := Unit.bodies?_of_emit? emitted' legible' (Names.plain_resolve sources')
  refine ⟨read, ?_⟩
  intro same
  rw [same, read'] at read
  exact Unit.adding_inj (Unit.ne_nil_of_emit? emitted) (Unit.ne_nil_of_emit? emitted')
    (Unit.parameterNames_ne_nil points) (Option.some.inj read).symm

namespace Sample

/-- A handler of a command that is a pair, under some spelling of the interface. -/
def pairHandler (definition : String) : Registration :=
  { shape := .command
    interface := ⟨definition, ["System.Tuple<App.Name, App.Age>"]⟩
    implementation := "App.Handler" }

/-- One extension point in a namespace and one outside. -/
def twoPoints : List ExtensionPoint :=
  [⟨"App", "Wiring", .publicAccess, "AddAll", .publicAccess, "services", "lifetime", true, none⟩,
    ⟨"", "Wiring", .internalAccess, "AddMore", .privateAccess, "_all2", "span", false, none⟩]

theorem legible_pairHandler {definition : String} (line : OneLine definition)
    (apart : ¬Unit.betweenTypes <:+: (pairHandler definition).serviceType.toList) :
    Unit.Legible [pairHandler definition] twoPoints where
  registrations := by
    intro r among
    obtain rfl := List.mem_singleton.mp among
    have argument : OneLine "System.Tuple<App.Name, App.Age>" := by decide
    have implementation : OneLine "App.Handler" := by decide
    exact ⟨line, List.forall_mem_singleton.mpr argument, implementation, apart⟩
  points := by
    have word {s : String} : isIdentifier s.toList = true → IsWord s := isWord_of_isIdentifier
    intro p among
    rcases List.mem_cons.mp among with rfl | among
    · exact ⟨by decide, by decide, by decide, word (by decide +kernel), word (by decide +kernel)⟩
    · obtain rfl := List.mem_singleton.mp among
      exact ⟨by decide, by decide, by decide, word (by decide +kernel), word (by decide +kernel)⟩

end Sample

/-- Two spellings of one interface, with a type argument that has a comma and brackets, give the
same unit for two extension points. It tells both methods, and the pairs are the same. -/
theorem source_determines_registrations_sample :
    let bare := Sample.pairHandler "CQRSToolkit.ICommandHandler"
    let spelt := Sample.pairHandler " global::CQRSToolkit.ICommandHandler`1"
    let names := (Names.resolve ⟨.empty, .empty⟩).value
    bare.serviceType = "CQRSToolkit.ICommandHandler<System.Tuple<App.Name, App.Age>>" ∧
      ∃ u, GeneratedUnit.emit? [bare] Sample.twoPoints names = some u ∧
        GeneratedUnit.emit? [spelt] Sample.twoPoints names = some u ∧
        Unit.bodies? u.source = some
          [⟨[⟨"services", bare.serviceType, "App.Handler", "lifetime"⟩], "services"⟩,
            ⟨[⟨"_all2", bare.serviceType, "App.Handler", "span"⟩], "_all2"⟩] ∧
        bare.pair = spelt.pair := by
  intro bare spelt names
  have text : bare.serviceType = "CQRSToolkit.ICommandHandler<System.Tuple<App.Name, App.Age>>" := by
    decide +kernel
  have same : [bare].map Registration.pair = [spelt].map Registration.pair := by decide +kernel
  obtain ⟨u, emitted⟩ : ∃ u, GeneratedUnit.emit? [bare] Sample.twoPoints names = some u := ⟨_, rfl⟩
  have again : GeneratedUnit.emit? [spelt] Sample.twoPoints names = some u :=
    (GeneratedUnit.emit?_congr same Sample.twoPoints names).symm.trans emitted
  obtain ⟨read, determined⟩ := source_determines_registrations emitted again
    (Sample.legible_pairHandler (by decide) (by decide +kernel))
    (Sample.legible_pairHandler (by decide) (by decide +kernel))
  exact ⟨text, u, emitted, again, read, (List.cons.inj (determined rfl).2).1⟩

end HandlerWiring
