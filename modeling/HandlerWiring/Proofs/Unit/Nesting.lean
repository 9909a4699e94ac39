import HandlerWiring.Proofs.Unit.Depth

/-!
# Nesting of units

The lines of a method close what they open, in a namespace or outside, so the braces of a unit nest
and each line stands behind four spaces for every brace that is open around it. A name with a brace
in it would upset the count; names and types are taken to have no mark of the layout, and then the
only braces are those that stand on lines of their own.

The text of a line begins with a space only if the receiver of an extension point does, or the
access modifier of synthesized names; without such a name the spaces before a line tell its depth.
Nothing is said about parentheses, brackets and quotes, which names may have in them.
-/

namespace HandlerWiring

open Session (textOfLines)

namespace Unit

/-! ## Methods nest -/

namespace MethodText

theorem nests_body (m : MethodText) (registrations : List Registration) (depth : Nat) :
    Nests depth (m.body registrations) depth := by
  unfold body
  induction registrations with
  | nil => exact .text _ (.done depth)
  | cons r rest ih => exact .text _ ih

theorem nests_classLines (m : MethodText) (registrations : List Registration) (depth : Nat) :
    Nests depth (m.classLines registrations) depth := by
  have behind : Nests (depth + 2) [.closing, .closing] depth := .closing (.closing (.done depth))
  have inside := (m.nests_body registrations (depth + 2)).append behind
  exact .text m.classDeclaration (.opening (.text m.declaration (.opening inside)))

theorem nests_lines (m : MethodText) (registrations : List Registration) :
    Nests 0 (m.lines registrations) 0 := by
  unfold lines
  split
  · exact m.nests_classLines registrations 0
  · have inside := (m.nests_classLines registrations 1).append (.closing (.done 0))
    exact .text ("namespace " ++ m.namespaceName) (.opening inside)

theorem length_lines (m : MethodText) (registrations : List Registration) :
    (m.lines registrations).length =
      7 + registrations.length + if m.namespaceName = "" then 0 else 3 := by
  have inner : (m.classLines registrations).length = 7 + registrations.length := by
    simp only [classLines, body, List.length_append, List.length_map, List.length_cons,
      List.length_nil]
    omega
  unfold lines
  by_cases missing : m.namespaceName = ""
  · rw [if_pos (String.isEmpty_iff.mpr missing), if_pos missing, inner, Nat.add_zero]
  · rw [if_neg (mt String.isEmpty_iff.mp missing), if_neg missing]
    simp only [List.length_append, List.length_cons, List.length_nil, inner]
    omega

end MethodText

theorem nests_unitLines (methods : List MethodText) (registrations : List Registration) :
    Nests 0 (unitLines methods registrations) 0 := by
  have each : Nests 0 (methods.flatMap fun m => .blank :: m.lines registrations) 0 := by
    induction methods with
    | nil => exact .done 0
    | cons m rest ih =>
      rw [List.flatMap_cons]
      exact (Nests.blank (m.nests_lines registrations)).append ih
  exact .text autoGeneratedHeader (.text "#nullable enable" each)

/-- How many lines a unit has: two of header, and for each method eight, one more for each
registration, and three more in a namespace. -/
def lineCount (registrations : List Registration) : List MethodText → Nat
  | [] => 2
  | m :: rest =>
    8 + registrations.length + (if m.namespaceName = "" then 0 else 3) +
      lineCount registrations rest

theorem length_unitLines (methods : List MethodText) (registrations : List Registration) :
    (unitLines methods registrations).length = lineCount registrations methods := by
  rw [unitLines, List.length_append]
  induction methods with
  | nil => rfl
  | cons m rest ih =>
    rw [List.flatMap_cons, List.length_append, List.length_cons, m.length_lines, lineCount, ← ih]
    omega

end Unit

/-! ## Names without marks -/

/-- An extension point whose texts have no mark of the layout. -/
structure ExtensionPoint.Inline (p : ExtensionPoint) : Prop where
  namespaceName : Unit.IsInline p.namespaceName
  className : Unit.IsInline p.className
  methodName : Unit.IsInline p.methodName
  servicesParameter : Unit.IsInline p.servicesParameter
  lifetimeParameter : Unit.IsInline p.lifetimeParameter

/-- A registration whose texts have no mark of the layout. -/
structure Registration.Inline (r : Registration) : Prop where
  definition : Unit.IsInline r.interface.definition
  typeArguments : ∀ argument ∈ r.interface.typeArguments, Unit.IsInline argument
  implementation : Unit.IsInline r.implementation

theorem Registration.Inline.lacks {r : Registration} (h : r.Inline) {c : Char}
    (mark : c ∈ Unit.layoutMarks) : r.Lacks c where
  definition := h.definition c mark
  typeArguments argument member := h.typeArguments argument member c mark
  implementation := h.implementation c mark

/-- Names that have no mark of the layout. -/
structure Names.Inline (n : Names) : Prop where
  accessModifier : Unit.IsInline n.accessModifier
  className : Unit.IsInline n.className
  namespaceName : Unit.IsInline n.namespaceName

namespace Unit

/-- A method whose texts have no mark of the layout, with a declaration of its class. -/
structure MethodText.Inline (m : MethodText) : Prop where
  lacks : ∀ c ∈ layoutMarks, m.Lacks c
  declared : m.classDeclaration ≠ ""

/-- A method whose lines do not begin with a space of their own. -/
structure MethodText.Flush (m : MethodText) : Prop where
  classDeclaration : ¬StartsWithSpace m.classDeclaration
  methodModifiers : ¬StartsWithSpace m.methodModifiers
  services : ¬StartsWithSpace m.services
  modified : m.methodModifiers ≠ ""

/-- Modifiers are there if the second is. -/
theorem modifiers_ne_empty (first : String) {second : String} (nonempty : second ≠ "")
    (parts : List String) : modifiers (first :: second :: parts) ≠ "" := by
  obtain ⟨start, behind, -, filled, spelt⟩ := toList_modifiers_cons_cons first nonempty parts
  intro empty
  rw [empty] at spelt
  exact filled (String.toList_eq_nil_iff.mp (List.append_eq_nil_iff.mp spelt.symm).1)

/-- Modifiers begin with a space only if the first does, or the second. -/
theorem not_startsWithSpace_modifiers {first second : String} (nonempty : second ≠ "")
    (firstFlush : ¬StartsWithSpace first) (secondFlush : ¬StartsWithSpace second)
    (parts : List String) : ¬StartsWithSpace (modifiers (first :: second :: parts)) := by
  obtain ⟨start, behind, either, filled, spelt⟩ := toList_modifiers_cons_cons first nonempty parts
  have written : modifiers (first :: second :: parts) = start ++ String.ofList behind := by
    rw [← String.toList_inj, String.toList_append, String.toList_ofList, spelt]
  rw [written]
  intro starts
  rcases startsWithSpace_append starts with starts | ⟨empty, -⟩
  · rcases either with rfl | rfl
    · exact firstFlush starts
    · exact secondFlush starts
  · exact filled empty

theorem isInline_servicesParameter : IsInline HostName.servicesParameter := by decide

theorem isInline_lifetimeParameter : IsInline HostName.lifetimeParameter := by decide

theorem not_startsWithSpace_servicesParameter : ¬StartsWithSpace HostName.servicesParameter := by
  decide

namespace MethodText

theorem inline_ofPoint {p : ExtensionPoint} (h : p.Inline) : (ofPoint p).Inline where
  lacks c mark :=
    { namespaceName := h.namespaceName c mark
      classDeclaration := not_mem_ofPoint_classDeclaration mark (h.className c mark)
      methodModifiers := not_mem_ofPoint_methodModifiers mark p
      methodName := h.methodName c mark
      services := h.servicesParameter c mark
      lifetime := h.lifetimeParameter c mark }
  declared := modifiers_ne_empty _ (by decide) _

theorem inline_ofNames {n : Names} (h : n.Inline) {methodName : String}
    (named : IsInline methodName) : (ofNames n methodName).Inline where
  lacks c mark :=
    { namespaceName := h.namespaceName c mark
      classDeclaration := not_mem_ofNames_classDeclaration mark (h.accessModifier c mark)
        (h.className c mark) methodName
      methodModifiers := not_mem_ofNames_methodModifiers mark (h.accessModifier c mark) methodName
      methodName := named c mark
      services := isInline_servicesParameter c mark
      lifetime := isInline_lifetimeParameter c mark }
  declared := modifiers_ne_empty _ (by decide) _

theorem flush_ofPoint {p : ExtensionPoint} (flush : ¬StartsWithSpace p.servicesParameter) :
    (ofPoint p).Flush where
  classDeclaration := by
    have keyword : ¬StartsWithSpace p.classAccessibility.typeKeyword := by
      cases p.classAccessibility
      all_goals decide
    exact not_startsWithSpace_modifiers (by decide) keyword (by decide) _
  methodModifiers := by
    have keyword : ¬StartsWithSpace p.methodAccessibility.methodKeyword := by
      cases p.methodAccessibility
      all_goals decide
    exact not_startsWithSpace_modifiers (by decide) keyword (by decide) _
  services := flush
  modified := modifiers_ne_empty _ (by decide) _

theorem flush_ofNames {n : Names} (flush : ¬StartsWithSpace n.accessModifier)
    (methodName : String) : (ofNames n methodName).Flush where
  classDeclaration := not_startsWithSpace_modifiers (by decide) flush (by decide) _
  methodModifiers := not_startsWithSpace_modifiers (by decide) flush (by decide) _
  services := not_startsWithSpace_servicesParameter
  modified := modifiers_ne_empty _ (by decide) _

/-- The texts of a method are there and have no mark of the layout. -/
theorem Inline.filled {m : MethodText} (h : m.Inline) {registrations : List Registration}
    (each : ∀ r ∈ registrations, r.Inline) {s : String}
    (among : .text s ∈ m.lines registrations) : IsInline s ∧ s ≠ "" := by
  refine ⟨fun c mark => ?_, text_ne_empty h.declared among⟩
  exact not_mem_text mark (h.lacks c mark) (fun r member => (each r member).lacks mark) among

/-- The texts of a flush method do not begin with a space. -/
theorem Flush.not_startsWithSpace {m : MethodText} (h : m.Flush)
    {registrations : List Registration} {s : String} (among : .text s ∈ m.lines registrations) :
    ¬StartsWithSpace s := by
  -- What stands in front decides if it is there, whatever is put behind it.
  have front (first : String) (filled : first ≠ "" ∧ ¬StartsWithSpace first)
      (behind : String) : ¬StartsWithSpace (first ++ behind) :=
    fun starts => (startsWithSpace_append starts).elim filled.2 fun none => filled.1 none.1
  rcases text_mem_lines among with rfl | rfl | rfl | ⟨r, -, rfl⟩ | rfl
  · exact front "namespace " (by decide) _
  · exact h.classDeclaration
  · unfold declaration
    simp only [String.append_assoc]
    exact front m.methodModifiers ⟨h.modified, h.methodModifiers⟩ _
  · -- The receiver may be missing; then the line begins with the dot.
    simp only [registrationText, String.append_assoc]
    intro starts
    rcases startsWithSpace_append starts with starts | ⟨-, starts⟩
    · exact h.services starts
    · exact front ".Add(new " (by decide) _ starts
  · rw [String.append_assoc]
    exact front "return " (by decide) _

end MethodText

/-! ## Sources nest -/

/-- A source of some methods in which every line is ended and stands at the depth of the braces that
are open before it. -/
structure WellNested (methods : List MethodText) (registrations : List Registration)
    (source : String) : Prop where
  /-- A line feed stands behind each line. -/
  ended : source = textOfLines (linesOf source)
  /-- Behind each method, and so at the end, every brace that was opened is closed, and none was
  closed that was not open. -/
  balanced : ∀ done rest, methods = done ++ rest →
    ∃ behind, source = unitText done registrations ++ behind ∧
      openBehind? 0 (unitText done registrations).toList = some 0
  /-- Each line is a line of code behind the spaces of its depth. -/
  indented : ∀ before shown behind, linesOf source = before ++ shown :: behind →
    ∃ depth line, openBehind? 0 (textOfLines before).toList = some depth ∧
      (unitLines methods registrations)[before.length]? = some line ∧ line.StandsAt depth shown
  /-- The lines of each method are counted. -/
  counted : (linesOf source).length = lineCount registrations methods
  /-- The depth is never lowered from zero: a layout that would give up there goes through. -/
  unsaturated : layOut? 0 (unitLines methods registrations) = some source.toList

/-- A source in which each line that is not empty begins with four spaces for each open brace, a
closing one not counted where it stands, and with no further space. -/
def FlushIndented (source : String) : Prop :=
  ∀ before shown behind, linesOf source = before ++ shown :: behind → shown ≠ "" →
    ∃ depth, openBehind? 0 (textOfLines before).toList = some depth ∧
      leadingSpaces shown = 4 * if '\x7d' ∈ shown.toList then depth - 1 else depth

section

variable {methods : List MethodText} {registrations : List Registration}

theorem filled_of_mem_unitLines (inline : ∀ m ∈ methods, m.Inline)
    (each : ∀ r ∈ registrations, r.Inline) {s : String}
    (among : .text s ∈ unitLines methods registrations) : IsInline s ∧ s ≠ "" := by
  have header : ∀ s ∈ [autoGeneratedHeader, "#nullable enable"], IsInline s ∧ s ≠ "" := by decide
  rcases text_mem_unitLines among with among | ⟨m, member, among⟩
  · exact header s among
  · exact (inline m member).filled each among

theorem linesOf_unitText (inline : ∀ m ∈ methods, m.Inline)
    (each : ∀ r ∈ registrations, r.Inline) :
    linesOf (unitText methods registrations) = indented 0 (unitLines methods registrations) := by
  rw [unitText, ofList_layOut]
  exact linesOf_textOfLines fun shown => oneLine_of_mem_indented fun s among =>
    (filled_of_mem_unitLines inline each among).1.oneLine

/-- The unit of the first methods is the start of the unit. -/
theorem unitText_append (done rest : List MethodText) (registrations : List Registration) :
    ∃ behind, unitText (done ++ rest) registrations = unitText done registrations ++ behind := by
  rw [unitText_eq, unitText_eq, List.flatMap_append, ← List.append_assoc,
    Session.textOfLines_append]
  exact ⟨_, rfl⟩

theorem openBehind?_unitText (inline : ∀ m ∈ methods, m.Inline)
    (each : ∀ r ∈ registrations, r.Inline) :
    openBehind? 0 (unitText methods registrations).toList = some 0 := by
  rw [unitText, ofList_layOut]
  exact (nests_unitLines methods registrations).openBehind?_eq fun s among =>
    (filled_of_mem_unitLines inline each among).1

theorem wellNested_unitText (inline : ∀ m ∈ methods, m.Inline)
    (each : ∀ r ∈ registrations, r.Inline) :
    WellNested methods registrations (unitText methods registrations) where
  ended := by rw [linesOf_unitText inline each, unitText, ofList_layOut]
  balanced done rest split := by
    subst split
    obtain ⟨behind, start⟩ := unitText_append done rest registrations
    have first : ∀ m ∈ done, m.Inline := fun m member => inline m (List.mem_append_left rest member)
    exact ⟨behind, start, openBehind?_unitText first each⟩
  indented before shown behind cut := by
    rw [linesOf_unitText inline each] at cut
    exact (nests_unitLines methods registrations).standsAt
      (fun s among => filled_of_mem_unitLines inline each among) cut
  counted := by rw [linesOf_unitText inline each, length_indented, length_unitLines]
  unsaturated := by
    rw [unitText, String.toList_ofList]
    exact (nests_unitLines methods registrations).layOut?_eq

/-- A source that nests is flush if its methods are. -/
theorem WellNested.flushIndented {source : String} (h : WellNested methods registrations source)
    (flush : ∀ m ∈ methods, m.Flush) : FlushIndented source := by
  have header : ∀ s ∈ [autoGeneratedHeader, "#nullable enable"], ¬StartsWithSpace s := by decide
  intro before shown behind cut nonempty
  obtain ⟨depth, line, opened, found, stands⟩ := h.indented before shown behind cut
  refine ⟨depth, opened, stands.leadingSpaces_eq ?_ nonempty⟩
  rintro s rfl
  rcases text_mem_unitLines (List.mem_of_getElem? found) with among | ⟨m, member, among⟩
  · exact header s among
  · exact (flush m member).not_startsWithSpace among

end

end Unit

/-- If names and types have no line feed and no brace in them, a unit nests, whether it completes
extension points or is synthesized: a line feed stands behind each line, the braces are balanced
behind each method and no depth is lowered from zero, each line stands behind four spaces for each
brace open around it, and the lines are as many as the methods and registrations tell. If no receiver
and no access modifier begins with a space, no line has further spaces before it. -/
theorem units_nest_and_are_indented {registrations : List Registration}
    (registered : ∀ r ∈ registrations, r.Inline) :
    (∀ points : List ExtensionPoint, (∀ p ∈ points, p.Inline) →
      Unit.WellNested (points.map .ofPoint) registrations
          (Unit.completion points registrations) ∧
        ((∀ p ∈ points, ¬Unit.StartsWithSpace p.servicesParameter) →
          Unit.FlushIndented (Unit.completion points registrations))) ∧
      ∀ (names : Names) (methodName : String), names.Inline → Unit.IsInline methodName →
        Unit.WellNested [.ofNames names methodName] registrations
            (Unit.synthesized names methodName registrations) ∧
          (¬Unit.StartsWithSpace names.accessModifier →
            Unit.FlushIndented (Unit.synthesized names methodName registrations)) := by
  constructor
  · intro points inline
    have methods : ∀ m ∈ points.map Unit.MethodText.ofPoint, m.Inline :=
      List.forall_mem_map.mpr fun p member => Unit.MethodText.inline_ofPoint (inline p member)
    have nested := Unit.wellNested_unitText methods registered
    refine ⟨nested, fun flush => nested.flushIndented ?_⟩
    exact List.forall_mem_map.mpr fun p member => Unit.MethodText.flush_ofPoint (flush p member)
  · intro names methodName inline named
    have methods : ∀ m ∈ [Unit.MethodText.ofNames names methodName], m.Inline :=
      List.forall_mem_singleton.mpr (Unit.MethodText.inline_ofNames inline named)
    have nested := Unit.wellNested_unitText methods registered
    refine ⟨nested, fun flush => nested.flushIndented ?_⟩
    exact List.forall_mem_singleton.mpr (Unit.MethodText.flush_ofNames flush methodName)

/-- One handler, and two extension points, of which one is in a namespace: the completion has a line
for each of two headings, twelve for the one method and nine for the other, and its braces are
balanced. The synthesized unit has two and twelve. -/
theorem units_nest_and_are_indented_sample :
    let registrations : List Registration :=
      [{ shape := .command
         interface := ⟨"CQRSToolkit.ICommandHandler", ["App.Name"]⟩
         implementation := "App.Handler" }]
    let points : List ExtensionPoint :=
      [⟨"App", "Wiring", .publicAccess, "AddAll", .publicAccess, "services", "lifetime", true,
          none⟩,
        ⟨"", "Wiring", .internalAccess, "AddMore", .privateAccess, "s", "t", false, none⟩]
    let completed := Unit.completion points registrations
    let synthesized := Unit.synthesized Names.standard "AddGenerated" registrations
    (Unit.openBehind? 0 completed.toList = some 0 ∧
        (Unit.linesOf completed).length = 2 + (12 + 9) ∧ Unit.FlushIndented completed) ∧
      (Unit.linesOf synthesized).length = 2 + 12 ∧ Unit.FlushIndented synthesized := by
  intro registrations points completed synthesized
  have registered : ∀ r ∈ registrations, r.Inline :=
    List.forall_mem_singleton.mpr
      ⟨by decide, List.forall_mem_singleton.mpr (by decide), by decide⟩
  have inline : ∀ p ∈ points, p.Inline := by
    intro p among
    rcases List.mem_cons.mp among with rfl | among
    · exact ⟨by decide, by decide, by decide, by decide, by decide⟩
    · obtain rfl := List.mem_singleton.mp among
      exact ⟨by decide, by decide, by decide, by decide, by decide⟩
  have standard : Names.standard.Inline := ⟨by decide, by decide, by decide⟩
  obtain ⟨completion, synthesis⟩ := units_nest_and_are_indented registered
  obtain ⟨nested, flush⟩ := completion points inline
  obtain ⟨nested', flush'⟩ := synthesis Names.standard "AddGenerated" standard (by decide)
  obtain ⟨-, -, balanced⟩ := nested.balanced _ [] (List.append_nil _).symm
  exact ⟨⟨balanced, nested.counted, flush (by decide)⟩, nested'.counted, flush' (by decide)⟩

end HandlerWiring
