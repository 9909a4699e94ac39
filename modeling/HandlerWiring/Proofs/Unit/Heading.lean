import HandlerWiring.Proofs.Setting.Identifier
import HandlerWiring.Proofs.Unit.Synthesized

/-!
# The headings of a synthesized unit

A synthesized unit opens a namespace and a class, each on a line with a name from the settings. The
two lines are legal in the host language just when the names are identifiers, so they are unless a
setting was given one of the misfits that it accepts. Then the unit does not compile.

Nothing is said about the other lines: they have no name from the settings in them.
-/

namespace HandlerWiring

open HostName

namespace Unit

/-- A line that opens a namespace: identifiers with dots between. -/
def IsNamespaceHeading (line : String) : Prop :=
  ∃ parts : List String, parts ≠ [] ∧ (∀ part ∈ parts, IsIdentifier part) ∧
    line = "namespace " ++ String.intercalate "." parts

/-- A line that opens a class within it: one of two modifiers and an identifier. -/
def IsClassHeading (line : String) : Prop :=
  ∃ modifier name : String, (modifier = "public" ∨ modifier = "internal") ∧ IsIdentifier name ∧
    line = "    " ++ modifier ++ " static class " ++ name

/-- The line of a synthesized unit that opens its namespace. -/
def namespaceHeading (n : Names) : String := "namespace " ++ n.namespaceName

/-- The line of a synthesized unit that opens its class. -/
def classHeading (n : Names) : String :=
  "    " ++ n.accessModifier ++ " static class " ++ n.className

/-- Identifiers are the parts of what they are with dots between. -/
theorem dottedParts_intercalate {parts : List String} (nonempty : parts ≠ [])
    (each : ∀ part ∈ parts, IsIdentifier part) :
    dottedParts (String.intercalate "." parts) = parts := by
  have clean : ∀ cs ∈ parts.map String.toList, '.' ∉ cs := by
    intro cs among dot
    obtain ⟨part, member, rfl⟩ := List.mem_map.mp among
    exact not_isPart_dot ((each part member).isPart dot)
  have split := List.splitOn_intercalate '.' clean (mt List.map_eq_nil_iff.mp nonempty)
  rw [dottedParts, Text.piecesAt_eq_splitOn, String.toList_intercalate]
  change (List.splitOn '.' (['.'].intercalate _)).map String.ofList = parts
  rw [split, List.map_map]
  simp only [Function.comp_def, String.ofList_toList, List.map_id']

/-- The line that opens the namespace is legal if the parts of the name are identifiers. -/
theorem isNamespaceHeading_iff {n : Names} :
    IsNamespaceHeading (namespaceHeading n) ↔
      ∀ part ∈ dottedParts n.namespaceName, IsIdentifier part := by
  constructor
  · rintro ⟨parts, nonempty, each, line⟩
    rw [(String.append_right_inj _).mp line, dottedParts_intercalate nonempty each]
    exact each
  · intro each
    refine ⟨dottedParts n.namespaceName, dottedParts_ne_nil n.namespaceName, each, ?_⟩
    rw [intercalate_dottedParts]
    rfl

/-- The name in a line that opens a class is determined by the line. -/
theorem className_inj {modifier modifier' name name' : String}
    (either : modifier = "public" ∨ modifier = "internal")
    (either' : modifier' = "public" ∨ modifier' = "internal")
    (line : "    " ++ modifier ++ " static class " ++ name =
      "    " ++ modifier' ++ " static class " ++ name') : name = name' := by
  by_cases same : modifier = modifier'
  · subst same
    exact (String.append_right_inj _).mp line
  · have letters := congrArg String.toList line
    simp only [String.toList_append] at letters
    rcases either with rfl | rfl
    · rcases either' with rfl | rfl
      · exact absurd rfl same
      · cases letters
    · rcases either' with rfl | rfl
      · cases letters
      · exact absurd rfl same

/-- The line that opens the class is legal if the name is an identifier. -/
theorem isClassHeading_iff {n : Names}
    (modifier : n.accessModifier = "public" ∨ n.accessModifier = "internal") :
    IsClassHeading (classHeading n) ↔ IsIdentifier n.className := by
  constructor
  · rintro ⟨other, name, either, identifier, line⟩
    rw [className_inj modifier either line]
    exact identifier
  · intro identifier
    exact ⟨n.accessModifier, n.className, modifier, identifier, rfl⟩

end Unit

/-- What the settings accept as the name of a class, and each part of what they accept as a
namespace, is an identifier of the host language unless it is one of the misfits: a reserved word, a
name that starts with a mark, one with a letter in a circle or square, one with a number such as a
superscript. So whatever the sources hold, the lines of a synthesized unit that open its namespace
and its class are legal just when no part of the names is a misfit. -/
theorem accepted_names_are_identifiers_but_misfits (value : String) (sources : Sources)
    {registrations : List Registration} (nonempty : registrations ≠ []) :
    (Setting.className.accepts value = true → (IsIdentifier value ↔ ¬IsMisfit value)) ∧
      (Setting.namespaceName.accepts value = true →
        ∀ part ∈ dottedParts value, (IsIdentifier part ↔ ¬IsMisfit part)) ∧
      let names := (Names.resolve sources).value
      let lines := Unit.synthesizedLines names registrations
      ∃ u, GeneratedUnit.emit? registrations [] names = some u ∧ u.kind = .synthesized ∧
        u.source = Session.textOfLines lines ∧
        lines[3]? = some (Unit.namespaceHeading names) ∧
        lines[5]? = some (Unit.classHeading names) ∧
        (Unit.IsNamespaceHeading (Unit.namespaceHeading names) ↔
          ∀ part ∈ dottedParts names.namespaceName, ¬IsMisfit part) ∧
        (Unit.IsClassHeading (Unit.classHeading names) ↔ ¬IsMisfit names.className) := by
  refine ⟨isIdentifier_iff_not_isMisfit, ?_, ?_⟩
  · intro accepted part among
    exact isIdentifier_iff_not_isMisfit (isIdentifier_of_mem_dottedParts accepted among)
  · intro names lines
    have plain : names.Plain := Names.plain_resolve sources
    obtain ⟨u, emitted, kind, -, source⟩ := GeneratedUnit.emit?_nil nonempty names
    rw [Unit.synthesized_eq plain.accessModifier_ne plain.className.nonempty
      plain.namespaceName.nonempty registrations] at source
    refine ⟨u, emitted, kind, source, rfl, rfl, ?_, ?_⟩
    · rw [Unit.isNamespaceHeading_iff]
      have accepted := Setting.namespaceName.accepts_resolve sources
      exact forall₂_congr fun part among =>
        isIdentifier_iff_not_isMisfit (isIdentifier_of_mem_dottedParts accepted among)
    · rw [Unit.isClassHeading_iff plain.accessModifier]
      exact isIdentifier_iff_not_isMisfit (Setting.className.accepts_resolve sources)

/-- A reserved word, a superscript, a mark and a letter in a circle are accepted and no identifiers.
With the reserved word for a class name, the unit of one handler opens its namespace and no
class. -/
theorem accepted_names_are_identifiers_but_misfits_sample :
    let sources : Sources :=
      { build := .empty
        locals := Dictionary.empty.insert Setting.className.localKey "class" }
    let names := (Names.resolve sources).value
    let registrations := (Registration.scan (Sample.oneHandler "C").types).value
    (Setting.className.accepts "class" = true ∧ ¬IsIdentifier "class") ∧
      (Setting.className.accepts "a²" = true ∧ ¬IsIdentifier "a²") ∧
      (Setting.className.accepts "Ⓐ" = true ∧ ¬IsIdentifier "Ⓐ") ∧
      (Setting.namespaceName.accepts "A.\u0345a" = true ∧ ¬IsIdentifier "\u0345a") ∧
      ∃ u, GeneratedUnit.emit? registrations [] names = some u ∧
        Unit.IsNamespaceHeading (Unit.namespaceHeading names) ∧
        ¬Unit.IsClassHeading (Unit.classHeading names) := by
  intro sources names registrations
  have nonempty : registrations ≠ [] := by decide
  have word : IsMisfit "class" := .reserved (by decide)
  have superscript : IsMisfit "a²" := .number (c := '²') (by decide) (by decide +kernel)
  have circle : IsMisfit "Ⓐ" := .enclosed (c := 'Ⓐ') (by decide) (by decide +kernel)
  have mark : IsMisfit "\u0345a" := .markFirst (c := '\u0345') (by decide) (by decide +kernel)
  have named (value : String) (accepted : Setting.className.accepts value = true)
      (misfit : IsMisfit value) : Setting.className.accepts value = true ∧ ¬IsIdentifier value := by
    have verdict := (accepted_names_are_identifiers_but_misfits value sources nonempty).1 accepted
    exact ⟨accepted, fun fine => verdict.mp fine misfit⟩
  obtain ⟨-, parts, u, emitted, -, -, -, -, opens, declares⟩ :=
    accepted_names_are_identifiers_but_misfits "A.\u0345a" sources nonempty
  refine ⟨named _ (by decide +kernel) word, named _ (by decide +kernel) superscript,
    named _ (by decide +kernel) circle, ?_, u, emitted, opens.mpr ?_, ?_⟩
  · have accepted : Setting.namespaceName.accepts "A.\u0345a" = true := by decide +kernel
    exact ⟨accepted, fun fine => (parts accepted _ (by decide)).mp fine mark⟩
  · have standard : names.namespaceName = "CQRSToolkit.DependencyInjection" := rfl
    have legal : ∀ part ∈ ["CQRSToolkit", "DependencyInjection"], IsIdentifier part := by
      decide +kernel
    have cut : dottedParts "CQRSToolkit.DependencyInjection" =
        ["CQRSToolkit", "DependencyInjection"] := rfl
    rw [standard, cut]
    intro part among
    exact (legal part among).not_isMisfit
  · intro fine
    exact declares.mp fine word

end HandlerWiring
