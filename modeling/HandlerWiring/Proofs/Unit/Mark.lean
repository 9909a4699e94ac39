import HandlerWiring.Proofs.Text.Line
import HandlerWiring.Proofs.Unit.Layout

/-!
# Marks of the layout

Laid out code is read by three characters: the line feed, and the two braces. The renderer writes
none of them into a line of text, so whatever mark a text of a unit has comes from a name or a type
that it was put together from.

Each law is about one mark and has its premises on the pieces. That a text may have other characters
in it, such as quotes, is not looked at here.
-/

namespace HandlerWiring

namespace Unit

/-- The line feed and the braces. -/
def layoutMarks : List Char := ['\n', '\x7b', '\x7d']

theorem lineFeed_mem : '\n' ∈ layoutMarks := by decide

/-- A text without marks of the layout. -/
def IsInline (s : String) : Prop := ∀ c ∈ layoutMarks, c ∉ s.toList

instance (s : String) : Decidable (IsInline s) := List.decidableBAll (· ∉ s.toList) layoutMarks

theorem IsInline.oneLine {s : String} (h : IsInline s) : OneLine s := h '\n' lineFeed_mem

/-! ## Lines -/

/-- Indentation has no mark of the layout. -/
theorem isInline_indentation (depth : Nat) : IsInline (String.ofList (indentation depth)) := by
  intro c mark among
  rw [String.toList_ofList] at among
  rw [(List.mem_replicate.mp among).2] at mark
  revert mark
  decide

/-- A line whose text is one line is written as one. -/
theorem Line.oneLine_shown {line : Line} (oneLine : ∀ s, line = .text s → OneLine s)
    (depth : Nat) : OneLine (line.shown depth) := by
  have indent (outer : Nat) : OneLine (String.ofList (indentation outer)) :=
    (isInline_indentation outer).oneLine
  cases line with
  | text s => exact oneLine_append.mpr ⟨indent depth, oneLine s rfl⟩
  | blank => exact List.not_mem_nil
  | opening => exact oneLine_append.mpr ⟨indent depth, by decide⟩
  | closing => exact oneLine_append.mpr ⟨indent (depth - 1), by decide⟩

theorem oneLine_of_mem_indented {lines : List Line} (oneLine : ∀ s, .text s ∈ lines → OneLine s)
    {depth : Nat} {shown : String} (among : shown ∈ indented depth lines) : OneLine shown := by
  obtain ⟨line, member, depth', rfl⟩ := exists_of_mem_indented among
  exact line.oneLine_shown (fun s same => oneLine s (same ▸ member)) depth'

end Unit

/-- A registration whose texts do not have a character. -/
structure Registration.Lacks (c : Char) (r : Registration) : Prop where
  definition : c ∉ r.interface.definition.toList
  typeArguments : ∀ argument ∈ r.interface.typeArguments, c ∉ argument.toList
  implementation : c ∉ r.implementation.toList

/-- A method whose texts do not have a character. -/
structure Unit.MethodText.Lacks (c : Char) (m : Unit.MethodText) : Prop where
  namespaceName : c ∉ m.namespaceName.toList
  classDeclaration : c ∉ m.classDeclaration.toList
  methodModifiers : c ∉ m.methodModifiers.toList
  methodName : c ∉ m.methodName.toList
  services : c ∉ m.services.toList
  lifetime : c ∉ m.lifetime.toList

/-- The bare name of a definition is part of it. -/
theorem withoutAlias_sublist (name : List Char) : (withoutAlias name).Sublist name := by
  rw [withoutAlias]
  split
  · exact (List.drop_sublist _ _).trans (Text.trim_sublist name)
  · exact Text.trim_sublist name

theorem Interface.definitionName_sublist (i : Interface) :
    i.definitionName.toList.Sublist i.definition.toList := by
  rw [definitionName, String.toList_ofList]
  exact ((Text.trim_sublist _).trans (List.takeWhile_sublist _)).trans (withoutAlias_sublist _)

namespace Unit

/-! ## Modifiers -/

/-- Modifiers start with the first if it is there. -/
theorem toList_modifiers_cons {part : String} (nonempty : part ≠ "") (parts : List String) :
    ∃ behind, (modifiers (part :: parts)).toList = part.toList ++ behind := by
  have kept : part.isEmpty = false := String.isEmpty_eq_false_iff.mpr nonempty
  rw [modifiers, List.filter_cons, kept, Bool.not_false, if_pos rfl]
  cases parts.filter (!·.isEmpty) with
  | nil =>
    rw [String.intercalate_singleton]
    exact ⟨[], (List.append_nil _).symm⟩
  | cons next rest =>
    rw [String.intercalate_cons_cons, String.toList_append, String.toList_append,
      List.append_assoc]
    exact ⟨_, rfl⟩

/-- If the first is not there they start with the second. -/
theorem toList_modifiers_cons_cons (first : String) {second : String} (nonempty : second ≠ "")
    (parts : List String) :
    ∃ start behind, (start = first ∨ start = second) ∧ start ≠ "" ∧
      (modifiers (first :: second :: parts)).toList = start.toList ++ behind := by
  by_cases missing : first = ""
  · subst missing
    obtain ⟨behind, spelt⟩ := toList_modifiers_cons nonempty parts
    exact ⟨second, behind, .inr rfl, nonempty, spelt⟩
  · obtain ⟨behind, spelt⟩ := toList_modifiers_cons missing (second :: parts)
    exact ⟨first, behind, .inl rfl, missing, spelt⟩

/-! ## Lines of a method -/

section

variable {c : Char} (mark : c ∈ layoutMarks)
include mark

theorem not_mem_serviceType {r : Registration} (h : r.Lacks c) : c ∉ r.serviceType.toList := by
  have literals : IsInline "" ∧ IsInline "<" ∧ IsInline ", " ∧ IsInline ">" := by decide
  obtain ⟨nothing, opens, comma, closes⟩ := literals
  have name : c ∉ r.interface.definitionName.toList :=
    fun among => h.definition (r.interface.definitionName_sublist.subset among)
  unfold Registration.serviceType Interface.text
  split
  · exact Text.not_mem_append.mpr ⟨name, nothing c mark⟩
  · simp only [Text.not_mem_append]
    exact ⟨name, ⟨opens c mark, Text.not_mem_intercalate (comma c mark) h.typeArguments⟩,
      closes c mark⟩

theorem not_mem_registrationText {r : Registration} (h : r.Lacks c) {services lifetime : String}
    (receiver : c ∉ services.toList) (word : c ∉ lifetime.toList) :
    c ∉ (registrationText r services lifetime).toList := by
  have literals : IsInline ".Add(new " ∧ IsInline (underGlobal HostName.serviceDescriptor) ∧
      IsInline "(typeof(" ∧ IsInline "), typeof(" ∧ IsInline "), " ∧ IsInline "));" := by
    decide +kernel
  obtain ⟨adds, descriptor, opens, between, before, closes⟩ := literals
  simp only [registrationText, Text.not_mem_append, receiver, not_mem_serviceType mark h,
    h.implementation, word, adds c mark, descriptor c mark, opens c mark, between c mark,
    before c mark, closes c mark, not_false_eq_true, and_self]

theorem not_mem_declaration {m : MethodText} (h : m.Lacks c) : c ∉ m.declaration.toList := by
  have types : IsInline (underGlobal HostName.serviceCollection) ∧
      IsInline (underGlobal HostName.serviceLifetime) ∧
      IsInline (underGlobal HostName.defaultLifetime) := by
    decide +kernel
  have literals : IsInline "" ∧ IsInline " " ∧ IsInline "(this " ∧ IsInline ", " ∧
      IsInline " = " ∧ IsInline ")" := by
    decide
  obtain ⟨collection, type, standard⟩ := types
  obtain ⟨nothing, blank, this, comma, equals, closes⟩ := literals
  unfold MethodText.declaration
  split
  all_goals simp only [Text.not_mem_append, h.methodModifiers, h.methodName, h.services,
    h.lifetime, collection c mark, type c mark, standard c mark, nothing c mark, blank c mark,
    this c mark, comma c mark, equals c mark, closes c mark, not_false_eq_true, and_self]

/-- A mark that is in no text of a method and its registrations is in no text of its lines. -/
theorem not_mem_text {m : MethodText} (h : m.Lacks c) {registrations : List Registration}
    (each : ∀ r ∈ registrations, r.Lacks c) {s : String}
    (among : .text s ∈ m.lines registrations) : c ∉ s.toList := by
  have literals : IsInline "namespace " ∧ IsInline "return " ∧ IsInline ";" := by decide
  obtain ⟨heading, returns, ending⟩ := literals
  rcases MethodText.text_mem_lines among with rfl | rfl | rfl | ⟨r, member, rfl⟩ | rfl
  · exact Text.not_mem_append.mpr ⟨heading c mark, h.namespaceName⟩
  · exact h.classDeclaration
  · exact not_mem_declaration mark h
  · exact not_mem_registrationText mark (each r member) h.services h.lifetime
  · exact Text.not_mem_append.mpr
      ⟨Text.not_mem_append.mpr ⟨returns c mark, h.services⟩, ending c mark⟩

/-! ## Headings -/

theorem not_mem_modifiers {parts : List String} (each : ∀ part ∈ parts, c ∉ part.toList) :
    c ∉ (modifiers parts).toList := by
  have blank : IsInline " " := by decide
  exact Text.not_mem_intercalate (blank c mark)
    fun part among => each part (List.mem_of_mem_filter among)

theorem not_mem_ofPoint_classDeclaration {p : ExtensionPoint}
    (className : c ∉ p.className.toList) :
    c ∉ (MethodText.ofPoint p).classDeclaration.toList := by
  have keyword (a : Accessibility) : IsInline a.typeKeyword := by
    cases a
    all_goals decide
  have literal : IsInline "static partial class" := by decide
  apply not_mem_modifiers mark
  simp only [List.forall_mem_cons, List.not_mem_nil, IsEmpty.forall_iff, implies_true, and_true]
  exact ⟨keyword _ c mark, literal c mark, className⟩

theorem not_mem_ofPoint_methodModifiers (p : ExtensionPoint) :
    c ∉ (MethodText.ofPoint p).methodModifiers.toList := by
  have keyword (a : Accessibility) : IsInline a.methodKeyword := by
    cases a
    all_goals decide
  have literal : IsInline "static partial" := by decide
  apply not_mem_modifiers mark
  simp only [List.forall_mem_cons, List.not_mem_nil, IsEmpty.forall_iff, implies_true, and_true]
  exact ⟨keyword _ c mark, literal c mark⟩

theorem not_mem_ofNames_classDeclaration {n : Names}
    (accessModifier : c ∉ n.accessModifier.toList) (className : c ∉ n.className.toList)
    (methodName : String) : c ∉ (MethodText.ofNames n methodName).classDeclaration.toList := by
  have literal : IsInline "static class" := by decide
  apply not_mem_modifiers mark
  simp only [List.forall_mem_cons, List.not_mem_nil, IsEmpty.forall_iff, implies_true, and_true]
  exact ⟨accessModifier, literal c mark, className⟩

theorem not_mem_ofNames_methodModifiers {n : Names}
    (accessModifier : c ∉ n.accessModifier.toList) (methodName : String) :
    c ∉ (MethodText.ofNames n methodName).methodModifiers.toList := by
  have literal : IsInline "static" := by decide
  apply not_mem_modifiers mark
  simp only [List.forall_mem_cons, List.not_mem_nil, IsEmpty.forall_iff, implies_true, and_true]
  exact ⟨accessModifier, literal c mark⟩

end

end Unit

end HandlerWiring
