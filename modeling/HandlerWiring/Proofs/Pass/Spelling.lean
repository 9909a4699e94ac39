import HandlerWiring.Proofs.Handler.Shape
import HandlerWiring.Proofs.Unit.Determined

/-!
# Spellings do not show in a unit

Two snapshots that differ only in how the definitions of interfaces are spelt have the same
handlers, under the same service types and in the same order, and so one unit. The registrations
themselves keep the spelling they were found under; it is the unit that does not tell it.
-/

namespace HandlerWiring

/-- Two interfaces that differ at most in how their definition is spelt: the bare name of both is
the same. -/
structure Interface.Respelt (i i' : Interface) : Prop where
  definition : i.definition = i'.definition ∨ ∃ name, IsBareName name ∧
    DefinitionSpelling name i.definition.toList ∧ DefinitionSpelling name i'.definition.toList
  typeArguments : i.typeArguments = i'.typeArguments

/-- Two types that differ at most in how the definitions of their interfaces are spelt. -/
structure Candidate.Respelt (c c' : Candidate) : Prop where
  name : c.name = c'.name
  accessibility : c.accessibility = c'.accessibility
  isValueType : c.isValueType = c'.isValueType
  isAbstract : c.isAbstract = c'.isAbstract
  isUnboundGeneric : c.isUnboundGeneric = c'.isUnboundGeneric
  location : c.location = c'.location
  interfaces : List.Forall₂ Interface.Respelt c.interfaces c'.interfaces

/-- Two snapshots that differ at most in how the definitions of interfaces are spelt. -/
structure Snapshot.Respelt (s s' : Snapshot) : Prop where
  types : List.Forall₂ Candidate.Respelt s.types s'.types
  methods : s.methods = s'.methods
  options : s.options = s'.options

namespace Interface.Respelt

variable {i i' : Interface}

theorem definitionName (h : i.Respelt i') : i.definitionName = i'.definitionName := by
  rcases h.definition with same | ⟨name, bare, spelt, spelt'⟩
  · rw [Interface.definitionName, Interface.definitionName, same]
  · rw [← String.toList_ofList (l := name)] at bare spelt spelt'
    rw [(definitionName_eq_iff bare).mpr spelt, (definitionName_eq_iff bare).mpr spelt']

theorem text (h : i.Respelt i') : i.text = i'.text := by
  rw [Interface.text, Interface.text, h.definitionName, h.typeArguments]

theorem shape (h : i.Respelt i') : Shape.of? i = Shape.of? i' :=
  Shape.of?_congr h.definitionName (congrArg List.length h.typeArguments)

end Interface.Respelt

/-- Of two respelt types both are looked at or neither is. -/
theorem Candidate.Respelt.isEligible {c c' : Candidate} (h : c.Respelt c') :
    c.isEligible = c'.isEligible := by
  have interfaces : c.interfaces.isEmpty = c'.interfaces.isEmpty := by
    rw [Bool.eq_iff_iff, List.isEmpty_iff_length_eq_zero, List.isEmpty_iff_length_eq_zero,
      h.interfaces.length_eq]
  rw [Candidate.isEligible, Candidate.isEligible, h.isValueType, h.isAbstract, h.isUnboundGeneric,
    interfaces]

namespace Registration

/-- Respelt interfaces of a type are registered as the same pairs. -/
theorem pairs_interfaces {c c' : Candidate} (name : c.name = c'.name)
    {interfaces interfaces' : List Interface}
    (respelt : List.Forall₂ Interface.Respelt interfaces interfaces') :
    (interfaces.filterMap (of? c)).map pair = (interfaces'.filterMap (of? c')).map pair := by
  induction respelt with
  | nil => rw [List.filterMap_nil, List.filterMap_nil]
  | @cons i i' _ _ head _ ih =>
    rw [List.filterMap_cons, List.filterMap_cons, of?, of?, head.shape]
    cases Shape.of? i' with
    | none =>
      simp only [Option.map_none]
      exact ih
    | some shape =>
      have first : pair ⟨shape, i, c.name⟩ = pair ⟨shape, i', c'.name⟩ := by
        simp only [pair, serviceType, head.text, name]
      simp only [Option.map_some, List.map_cons]
      rw [first, ih]

theorem pairs_ofType {c c' : Candidate} (respelt : c.Respelt c') :
    (ofType c).map pair = (ofType c').map pair := by
  rw [ofType, ofType, respelt.isEligible]
  split
  · exact pairs_interfaces respelt.name respelt.interfaces
  · rfl

/-- In respelt types the same pairs are found, in the same order. -/
theorem pairs_scan {types types' : List Candidate}
    (respelt : List.Forall₂ Candidate.Respelt types types') :
    (scan types).value.map pair = (scan types').value.map pair := by
  rw [value_scan, value_scan]
  induction respelt with
  | nil => rfl
  | cons head _ ih =>
    rw [List.flatMap_cons, List.flatMap_cons, List.map_append, List.map_append,
      pairs_ofType head, ih]

end Registration

namespace Snapshot

/-- Of what a scan finds, the unit of a pass has nothing but the pairs. -/
theorem unit_generate_congr {s s' : Snapshot}
    (pairs : (Registration.scan s.types).value.map Registration.pair =
      (Registration.scan s'.types).value.map Registration.pair)
    (methods : s.methods = s'.methods) (sources : Sources) :
    (s.generate sources).value.unit = (s'.generate sources).value.unit := by
  have empty : (Registration.scan s.types).value.isEmpty =
      (Registration.scan s'.types).value.isEmpty := by
    rw [← List.isEmpty_map, pairs, List.isEmpty_map]
  rw [value_generate, value_generate, methods]
  dsimp only
  rw [empty]
  split
  · rfl
  · exact GeneratedUnit.emit?_congr pairs _ _

theorem Respelt.unit_generate {s s' : Snapshot} (h : s.Respelt s') (sources : Sources) :
    (s.generate sources).value.unit = (s'.generate sources).value.unit :=
  unit_generate_congr (Registration.pairs_scan h.types) h.methods sources

end Snapshot

/-- Shapes are recognised exactly, and under every spelling. An interface has a shape if and only if
it has as many type arguments and its definition spells the shape's: blanks, perhaps the global
alias, blanks, the name, blanks, and nothing else or a mark with anything behind it. At most one
shape fits, so they may be tried in any order. All spellings of one bare name have that name, and
with the same type arguments the same text in generated code and the same shape. So snapshots that
differ only in spellings have one unit, whatever the sources, and also under their own options. -/
theorem shapes_recognised_under_every_spelling :
    (∀ (i : Interface) (s : Shape), Shape.of? i = some s ↔
        i.arity = s.arity ∧ DefinitionSpelling s.definition.toList i.definition.toList) ∧
      (∀ (i : Interface) (s s' : Shape), s.fits i = true → s'.fits i = true → s = s') ∧
      (∀ (i : Interface) (order : List Shape), order.Perm Shape.all →
        order.find? (·.fits i) = Shape.of? i) ∧
      (∀ name : String, IsBareName name.toList → ∀ i i' : Interface,
        DefinitionSpelling name.toList i.definition.toList →
          DefinitionSpelling name.toList i'.definition.toList →
            i.definitionName = name ∧
              (i.typeArguments = i'.typeArguments →
                i.text = i'.text ∧ Shape.of? i = Shape.of? i')) ∧
      ∀ s s' : Snapshot, s.Respelt s' →
        (∀ sources, (s.generate sources).value.unit = (s'.generate sources).value.unit) ∧
          s.generateOwn.value.unit = s'.generateOwn.value.unit := by
  refine ⟨?_, fun i s s' => Shape.eq_of_fits, fun i order perm => Shape.find?_perm perm i, ?_, ?_⟩
  · intro i s
    rw [Shape.of?_eq_some_iff, Shape.fits_iff_spells]
  · intro name bare i i' spelt spelt'
    refine ⟨(Interface.definitionName_eq_iff bare).mpr spelt, fun arguments => ?_⟩
    have respelt : i.Respelt i' := ⟨.inr ⟨name.toList, bare, spelt, spelt'⟩, arguments⟩
    exact ⟨respelt.text, respelt.shape⟩
  · intro s s' respelt
    refine ⟨respelt.unit_generate, ?_⟩
    rw [Snapshot.generateOwn, Snapshot.generateOwn, Snapshot.ownSources, Snapshot.ownSources,
      respelt.options]
    exact respelt.unit_generate _

namespace Sample

/-- A class that handles a command, under some spelling of the interface. -/
def commandHandler (definition : String) : Candidate :=
  (Candidate.ofName "A.H").implementing ⟨definition, ["A.C"]⟩

/-- The snapshot of that class alone. -/
def speltHandler (definition : String) : Snapshot :=
  { Snapshot.empty with types := [commandHandler definition] }

/-- A spelling with everything that may stand around a name. -/
def paddedDefinition : String := "\t global::\u00a0CQRSToolkit.ICommandHandler <TCommand> "

theorem paddedDefinition_spells :
    DefinitionSpelling Shape.command.definition.toList paddedDefinition.toList := by
  have whole : paddedDefinition.toList =
      "\t ".toList ++ globalAlias ++ "\u00a0".toList ++ Shape.command.definition.toList ++
        " ".toList ++ "<TCommand> ".toList := by decide
  rw [whole]
  exact .intro (by decide) (.inr rfl) (by decide) (by decide) (.inr ⟨'<', _, .inl rfl, rfl⟩)

theorem definition_spells : DefinitionSpelling Shape.command.definition.toList
    Shape.command.definition.toList := by
  have whole : Shape.command.definition.toList =
      [] ++ [] ++ [] ++ Shape.command.definition.toList ++ [] ++ [] := by
    simp only [List.nil_append, List.append_nil]
  rw [whole]
  exact .intro Text.areBlank_nil (.inl rfl) Text.areBlank_nil Text.areBlank_nil (.inl rfl)

end Sample

/-- The interface of a command handler under a spelling with everything around its name: it has the
shape and the text of the bare one, and the unit is the same. -/
theorem shapes_recognised_under_every_spelling_sample :
    let bare : Interface := ⟨Shape.command.definition, ["A.C"]⟩
    let padded : Interface := ⟨Sample.paddedDefinition, ["A.C"]⟩
    Shape.of? padded = some .command ∧ padded.text = bare.text ∧
      (Sample.speltHandler padded.definition).generateOwn.value.unit =
        (Sample.speltHandler bare.definition).generateOwn.value.unit ∧
      (Sample.speltHandler bare.definition).generateOwn.value.unit ≠ none := by
  intro bare padded
  obtain ⟨exact, -, -, spellings, units⟩ := shapes_recognised_under_every_spelling
  have spelt := Sample.paddedDefinition_spells
  have same := (spellings _ Shape.command.isBareName_definition padded bare spelt
    Sample.definition_spells).2 rfl
  have respelt : padded.Respelt bare :=
    ⟨.inr ⟨_, Shape.command.isBareName_definition, spelt, Sample.definition_spells⟩, rfl⟩
  have types : (Sample.commandHandler padded.definition).Respelt
      (Sample.commandHandler bare.definition) :=
    ⟨rfl, rfl, rfl, rfl, rfl, rfl, .cons respelt .nil⟩
  have snapshots : (Sample.speltHandler padded.definition).Respelt
      (Sample.speltHandler bare.definition) := ⟨.cons types .nil, rfl, rfl⟩
  have shape : Shape.of? bare = some .command :=
    (exact bare .command).mpr ⟨rfl, Sample.definition_spells⟩
  have handler : Registration.SomeHandler (Sample.speltHandler bare.definition).types :=
    ⟨_, List.mem_singleton_self _, rfl, bare, List.mem_singleton_self bare,
      Option.isSome_of_eq_some shape⟩
  have unit := (units _ _ snapshots).2
  refine ⟨(exact padded .command).mpr ⟨rfl, spelt⟩, same.1, unit, ?_⟩
  rw [Snapshot.generateOwn, Snapshot.unit_generate handler]
  exact Option.some_ne_none _

end HandlerWiring
