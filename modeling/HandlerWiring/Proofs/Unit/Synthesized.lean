import HandlerWiring.Proofs.Command.Generate
import HandlerWiring.Proofs.FileSystem.Path
import HandlerWiring.Proofs.Setting.Name
import HandlerWiring.Proofs.Unit.Template

/-!
# What settings put into a synthesized unit

A synthesized unit is a fixed template with three slots, for the access modifier, the namespace and
the class name. Names from the settings have no character that structures code, so whatever the
sources hold, the braces, ends of lines, quotes, semicolons and comments of the unit are those of
the template with empty slots, and the name of its file stays in the directory.

The registrations are the other thing that a unit shows. Their texts come from the snapshot and
may hold anything; nothing is said about them.
-/

namespace HandlerWiring

open Session (textOfLines)

namespace Unit

/-! ## Marks -/

/-- The characters of a text that structure code, in their order. -/
def marksIn (s : String) : List Char := s.toList.filter (· ∈ codeMarks)

theorem marksIn_append (s t : String) : marksIn (s ++ t) = marksIn s ++ marksIn t := by
  rw [marksIn, String.toList_append, List.filter_append]
  rfl

theorem marksIn_of_markFree {s : String} (h : MarkFree s) : marksIn s = [] := by
  rw [marksIn, List.filter_eq_nil_iff]
  intro c among
  rw [decide_eq_true_eq]
  exact h c among

/-- The marks of lines are those of each line. -/
theorem marksIn_textOfLines_congr : ∀ {lines lines' : List String},
    lines.map marksIn = lines'.map marksIn →
      marksIn (textOfLines lines) = marksIn (textOfLines lines')
  | [], [], _ => rfl
  | line :: rest, line' :: rest', same => by
    obtain ⟨first, others⟩ := List.cons.inj same
    simp only [textOfLines, marksIn_append, first, marksIn_textOfLines_congr others]

/-- Names without marks leave the template with the marks that it has without names. -/
theorem marksIn_synthesizedLines {n : Names} (modifier : MarkFree n.accessModifier)
    (className : MarkFree n.className) (namespaceName : MarkFree n.namespaceName)
    (registrations : List Registration) :
    marksIn (textOfLines (synthesizedLines n registrations)) =
      marksIn (textOfLines (synthesizedLines ⟨"", "", ""⟩ registrations)) := by
  have empty : marksIn "" = [] := rfl
  apply marksIn_textOfLines_congr
  simp only [synthesizedLines, List.map_append, List.map_cons, marksIn_append, empty,
    marksIn_of_markFree modifier, marksIn_of_markFree className, marksIn_of_markFree namespaceName]

/-- How many ends of lines a text has. -/
def lineEnds (s : String) : Nat := s.toList.count '\n'

theorem lineEnds_append (s t : String) : lineEnds (s ++ t) = lineEnds s + lineEnds t := by
  rw [lineEnds, String.toList_append, List.count_append]
  rfl

/-- The ends of lines are among the marks. -/
theorem lineEnds_eq_count (s : String) : lineEnds s = (marksIn s).count '\n' := by
  rw [marksIn, List.count_filter (by decide)]
  rfl

theorem lineEnds_registrationLine (r : Registration) :
    lineEnds (registrationLine "            " "services" "defaultLifetime" r) =
      lineEnds r.serviceType + lineEnds r.implementation := by
  have literals : lineEnds "            " = 0 ∧ lineEnds "services" = 0 ∧ lineEnds ".Add(new " = 0 ∧
      lineEnds "global::Microsoft.Extensions.DependencyInjection.ServiceDescriptor(typeof(" = 0 ∧
      lineEnds "), typeof(" = 0 ∧ lineEnds "), " = 0 ∧ lineEnds "defaultLifetime" = 0 ∧
      lineEnds "));" = 0 := by
    decide +kernel
  unfold registrationLine
  simp only [lineEnds_append, literals]
  omega

/-- How many lines some registrations take: one each, and one for each end of a line in their
texts. -/
def registrationLineCount : List Registration → Nat
  | [] => 0
  | r :: rest => lineEnds r.serviceType + lineEnds r.implementation + 1 + registrationLineCount rest

theorem lineEnds_registrationLines (registrations : List Registration) :
    lineEnds (textOfLines
        (registrations.map (registrationLine "            " "services" "defaultLifetime"))) =
      registrationLineCount registrations := by
  induction registrations with
  | nil => rfl
  | cons r rest ih =>
    rw [List.map_cons, textOfLines, lineEnds_append, lineEnds_append, ih,
      lineEnds_registrationLine, registrationLineCount]
    rfl

theorem lineEnds_signature :
    lineEnds (signature "AddGenerated" "services" "defaultLifetime" false) = 0 := by
  have types :
      lineEnds "global::Microsoft.Extensions.DependencyInjection.IServiceCollection " = 0 ∧
      lineEnds "(this global::Microsoft.Extensions.DependencyInjection.IServiceCollection " = 0 ∧
      lineEnds ", global::Microsoft.Extensions.DependencyInjection.ServiceLifetime " = 0 ∧
      lineEnds
        " = global::Microsoft.Extensions.DependencyInjection.ServiceLifetime.Transient)" = 0 := by
    decide +kernel
  have names : lineEnds "AddGenerated" = 0 ∧ lineEnds "services" = 0 ∧
      lineEnds "defaultLifetime" = 0 := by
    decide +kernel
  unfold signature
  simp only [lineEnds_append, types, names, Bool.false_eq_true, if_false]

/-- The template without names has thirteen lines beside those of the registrations. -/
theorem lineEnds_synthesizedLines (registrations : List Registration) :
    lineEnds (textOfLines (synthesizedLines ⟨"", "", ""⟩ registrations)) =
      13 + registrationLineCount registrations := by
  have headings : lineEnds "// <auto-generated/>" = 0 ∧ lineEnds "#nullable enable" = 0 ∧
      lineEnds "" = 0 ∧ lineEnds "namespace " = 0 ∧ lineEnds " static class " = 0 ∧
      lineEnds " static " = 0 ∧ lineEnds "            return services;" = 0 := by
    decide +kernel
  have braces : lineEnds "    " = 0 ∧ lineEnds "        " = 0 ∧ lineEnds "\x7b" = 0 ∧
      lineEnds "    \x7b" = 0 ∧ lineEnds "        \x7b" = 0 ∧ lineEnds "\x7d" = 0 ∧
      lineEnds "    \x7d" = 0 ∧ lineEnds "        \x7d" = 0 ∧ lineEnds "\n" = 1 := by
    decide +kernel
  rw [synthesizedLines, Session.textOfLines_append, Session.textOfLines_append, lineEnds_append,
    lineEnds_append, lineEnds_registrationLines]
  simp only [textOfLines, lineEnds_append, lineEnds_signature, headings, braces]
  omega

end Unit

/-! ## The unit -/

/-- A unit whose name does not lead outside is not refused. -/
theorem GeneratedUnit.placed_ne_outside {u : GeneratedUnit}
    (inside : leadsOutside u.hintName = false) (directory : Path) (files : FileSystem)
    (name : String) : (u.placed directory files).1 ≠ .error (.outside name) := by
  unfold placed
  rw [if_neg (Bool.not_eq_true _ ▸ inside)]
  intro refused
  split at refused
  · cases refused
  · split at refused
    · cases refused
    · cases refused

/-- The name of a synthesized unit has no mark if the names have none. -/
theorem markFree_unitName {namespaceName className : String} (space : MarkFree namespaceName)
    (named : MarkFree className) :
    MarkFree (unitName namespaceName className GeneratedUnit.synthesizedMethodName) := by
  have dot : MarkFree "." := by decide
  have method : MarkFree GeneratedUnit.synthesizedMethodName := by decide
  have ending : MarkFree ".g.cs" := by decide
  rw [unitName, qualify]
  split
  · exact ((named.append dot).append method).append ending
  · exact ((((space.append dot).append named).append dot).append method).append ending

/-- Without extension points a unit is synthesized from the names. -/
theorem GeneratedUnit.emit?_nil {registrations : List Registration}
    (nonempty : registrations ≠ []) (names : Names) :
    ∃ u, emit? registrations [] names = some u ∧ u.kind = .synthesized ∧
      u.hintName = unitName names.namespaceName names.className synthesizedMethodName ∧
      u.source = Unit.synthesized names synthesizedMethodName registrations := by
  rw [emit?, List.isEmpty_eq_false_iff.mpr nonempty]
  exact ⟨_, rfl, rfl, rfl, rfl⟩

/-- Whatever the two sources hold under whatever keys, the names of what is synthesized are plain
and have no mark. For any registrations the synthesized unit has a name without a slash of either
kind that leads from the working directory, so no attempt to write it is refused. Its source is the
template with the three names in their slots; the marks in it, in their order, are those of the
template with empty slots, and how many lines it has depends on the registrations. -/
theorem settings_inject_nothing (sources : Sources) :
    let names := (Names.resolve sources).value
    names.Plain ∧
      (MarkFree names.accessModifier ∧ MarkFree names.className ∧ MarkFree names.namespaceName) ∧
      ∀ registrations : List Registration, registrations ≠ [] →
        ∃ u, GeneratedUnit.emit? registrations [] names = some u ∧ u.kind = .synthesized ∧
          ('/' ∉ u.hintName.toList ∧ '\\' ∉ u.hintName.toList ∧
            Path.isAbsolute ⟨u.hintName⟩ = false) ∧
          (∀ directory w name, ((u.writeInto directory).run w).1 ≠ .error (.outside name)) ∧
          u.source = textOfLines (Unit.synthesizedLines names registrations) ∧
          Unit.marksIn u.source =
            Unit.marksIn (textOfLines (Unit.synthesizedLines ⟨"", "", ""⟩ registrations)) ∧
          Unit.lineEnds u.source = 13 + Unit.registrationLineCount registrations := by
  intro names
  have plain : names.Plain := Names.plain_resolve sources
  obtain ⟨modifier, className, namespaceName⟩ := plain.markFree
  refine ⟨plain, plain.markFree, fun registrations nonempty => ?_⟩
  obtain ⟨u, emitted, kind, hintName, source⟩ := GeneratedUnit.emit?_nil nonempty names
  have free : MarkFree u.hintName := hintName ▸ markFree_unitName namespaceName className
  have slash : '/' ∉ u.hintName.toList := fun among => free _ among (by decide)
  have backslash : '\\' ∉ u.hintName.toList := fun among => free _ among (by decide)
  have inside : leadsOutside u.hintName = false := by
    rw [← Bool.not_eq_true, leadsOutside_iff]
    exact fun leads => leads.elim slash backslash
  rw [Unit.synthesized_eq plain.accessModifier_ne plain.className.nonempty
    plain.namespaceName.nonempty registrations] at source
  have marks := Unit.marksIn_synthesizedLines modifier className namespaceName registrations
  rw [← source] at marks
  refine ⟨u, emitted, kind, ⟨slash, backslash, Path.isAbsolute_of_not_mem slash⟩, ?_, source,
    marks, ?_⟩
  · intro directory w name
    rw [GeneratedUnit.run_writeInto]
    exact GeneratedUnit.placed_ne_outside inside directory w.files name
  · rw [Unit.lineEnds_eq_count, marks, ← Unit.lineEnds_eq_count, Unit.lineEnds_synthesizedLines]

/-- Sources that try to close the class early and to leave the directory: both values are passed
over, and the unit of one handler keeps the standard names. -/
theorem settings_inject_nothing_sample :
    let sources : Sources :=
      { build := Dictionary.empty.insert Setting.className.buildKey "A \x7b \x7d class B"
        locals := Dictionary.empty.insert Setting.namespaceName.localKey "../up" }
    let names := (Names.resolve sources).value
    let registrations := (Registration.scan (Sample.oneHandler "C").types).value
    names = Names.standard ∧
      ∃ u, GeneratedUnit.emit? registrations [] names = some u ∧ '/' ∉ u.hintName.toList ∧
        u.source = textOfLines (Unit.synthesizedLines names registrations) := by
  intro sources names registrations
  obtain ⟨-, -, units⟩ := settings_inject_nothing sources
  obtain ⟨u, emitted, -, ⟨slash, -⟩, -, source, -⟩ := units registrations (by decide)
  exact ⟨by decide, u, emitted, slash, source⟩

end HandlerWiring
