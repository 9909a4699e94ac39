import HandlerWiring.Proofs.Pass
import HandlerWiring.Proofs.Setting.Name
import HandlerWiring.Proofs.Unit.Template

/-!
# Which unit a pass produces

With a handler a pass has one unit, and the unit is an instance of one of two templates. If a marked
method is accepted it is the completion, with a block for each accepted method in declaration order.
The settings have a say in it only through the strictness. Otherwise it is the synthesized unit,
with the resolved names in its slots.

The templates take the registrations from the scan of the types. Which types are scanned, and in
what order, is not looked at here.
-/

namespace HandlerWiring

open Session (textOfLines)

namespace Snapshot

/-- The accepted methods declare the extension points, one each and in the same order. -/
theorem declares_acceptedPoints (snapshot : Snapshot) (s : Strictness) :
    List.Forall₂ Method.Declares (snapshot.acceptedMethods s) (snapshot.acceptedPoints s) := by
  unfold acceptedMethods acceptedPoints
  induction snapshot.markedMethods with
  | nil => exact .nil
  | cons m rest ih =>
    rw [List.filter_cons, List.filterMap_cons, Method.isAccepted]
    cases result : m.validate s with
    | error d => exact ih
    | ok p => exact .cons (Method.validate_accepts result) ih

/-- The unit that is synthesized from resolved names is the template with the names in its slots, in
a file that is named after them. -/
theorem synthesizedUnit_resolve (s : Snapshot) (sources : Sources) :
    let names := (Names.resolve sources).value
    let u := s.synthesizedUnit names
    u.hintName = names.namespaceName ++ "." ++ names.className ++ ".AddGenerated.g.cs" ∧
      u.source = textOfLines (Unit.synthesizedLines names (Registration.scan s.types).value) := by
  intro names u
  have plain : names.Plain := Names.plain_resolve sources
  constructor
  · have ending : ".AddGenerated.g.cs" = "." ++ "AddGenerated" ++ ".g.cs" := rfl
    have inside : ¬names.namespaceName.isEmpty = true :=
      mt String.isEmpty_iff.mp plain.namespaceName.nonempty
    change qualify names.namespaceName names.className "AddGenerated" ++ ".g.cs" = _
    rw [qualify, if_neg inside, ending]
    simp only [String.append_assoc]
  · exact Unit.synthesized_eq plain.accessModifier_ne plain.className.nonempty
      plain.namespaceName.nonempty (Registration.scan s.types).value

/-- A pass with a synthesized unit has the one of the resolved names. -/
theorem synthesized_generate {s : Snapshot} {sources : Sources} {u : GeneratedUnit}
    (has : (s.generate sources).value.unit = some u) (kind : u.kind = .synthesized) :
    u = s.synthesizedUnit (Names.resolve sources).value := by
  by_cases nothing : (Registration.scan s.types).value = []
  · rw [(generate_of_nil sources nothing).2] at has
    cases has
  · rw [unit_generate ((Registration.scan_ne_nil_iff s.types).mp nothing) sources] at has
    cases points : s.acceptedPoints (Strictness.resolve sources).value with
    | nil =>
      rw [points] at has
      exact (Option.some.inj has).symm
    | cons first rest =>
      rw [points] at has
      cases has
      cases kind

end Snapshot

/-- Selection of the unit, for every snapshot and all sources. Without a handler there is no unit
and no report. With one there is exactly one unit. It is a completion if and only if a marked method
is accepted under the resolved strictness. A completion has the lines that complete the accepted
methods, one block each, in declaration order, is named after the first, and is the same under all
sources that resolve to the same strictness. Any other unit has the lines of the method
`AddGenerated` in the class and namespace of the resolved names. -/
theorem generate_selects_unit (s : Snapshot) (sources : Sources) :
    let outcome := (s.generate sources).value
    let registrations := (Registration.scan s.types).value
    let strictness := (Strictness.resolve sources).value
    let names := (Names.resolve sources).value
    (¬Registration.SomeHandler s.types → outcome.unit = none ∧
        outcome.validation.points = [] ∧ outcome.validation.diagnostics = []) ∧
      (Registration.SomeHandler s.types → ∃ u, outcome.unit = some u ∧
        (u.kind = .completion ↔ ∃ m ∈ s.markedMethods, ∃ p, m.validate strictness = .ok p) ∧
        (u.kind = .completion →
          (∃ blocks, List.Forall₂ (Unit.Completes registrations) (s.acceptedMethods strictness)
              blocks ∧
            u.source = textOfLines (Unit.completionLines blocks)) ∧
          (∃ first, (s.acceptedMethods strictness).head? = some first ∧
            u.hintName = first.qualifiedName ++ ".g.cs") ∧
          ∀ sources', (Strictness.resolve sources').value = strictness →
            (s.generate sources').value.unit = some u) ∧
        (u.kind ≠ .completion →
          u.kind = .synthesized ∧
          u.hintName = names.namespaceName ++ "." ++ names.className ++ ".AddGenerated.g.cs" ∧
          u.source = textOfLines (Unit.synthesizedLines names registrations))) := by
  intro outcome registrations strictness names
  refine ⟨fun none => ?_, fun handler => ?_⟩
  · obtain ⟨unit, validation⟩ := Snapshot.generate_of_no_handler none sources
    refine ⟨unit, ?_⟩
    rw [validation]
    exact ⟨rfl, rfl⟩
  have selected := Snapshot.unit_generate handler sources
  have accepts := s.acceptedPoints_ne_nil_iff strictness
  have declares := s.declares_acceptedPoints strictness
  cases points : s.acceptedPoints strictness with
  | nil =>
    rw [points] at selected accepts
    refine ⟨_, selected, ?_, ?_, ?_⟩
    · rw [← accepts]
      exact ⟨fun kind => (nomatch kind), fun some => absurd rfl some⟩
    · intro kind
      cases kind
    · intro _
      exact ⟨rfl, s.synthesizedUnit_resolve sources⟩
  | cons first rest =>
    rw [points] at selected accepts declares
    have heads := s.acceptedMethods_head? strictness
    rw [points] at heads
    obtain ⟨m, head, name⟩ := Option.map_eq_some_iff.mp heads
    refine ⟨_, selected, ?_, ?_, ?_⟩
    · rw [← accepts]
      exact ⟨fun _ => List.cons_ne_nil first rest, fun _ => rfl⟩
    · intro _
      refine ⟨Unit.completion_eq declares registrations,
        ⟨m, head, congrArg (· ++ ".g.cs") name.symm⟩, ?_⟩
      intro sources' same
      rw [Snapshot.unit_generate handler sources', same, points]
    · intro other
      exact absurd rfl other

end HandlerWiring
