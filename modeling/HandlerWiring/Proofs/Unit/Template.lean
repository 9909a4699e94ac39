import Mathlib.Data.List.Forall2
import HandlerWiring.ExtensionPoint.Rule
import HandlerWiring.Proofs.Unit.Layout
import HandlerWiring.Unit.Generated

/-!
# The templates of a unit

A unit is one of two fixed templates. They are spelt out here line by line, with every keyword,
brace, blank and type name, beside the code that lays them out, and compared with it.

A completion has a block for each method, as its declaration says: the namespace unless that is the
global one, the class and the method behind the keywords of their accessibility, the names of the
two parameters, and the default lifetime if the declaration gives none. A synthesized unit has slots
for the access modifier, the namespace and the class name.

Slots are filled with any texts. What the texts may be, and whether the result compiles, is not
decided here.
-/

namespace HandlerWiring

open Session (textOfLines)

/-- A method of two parameters declares an extension point. -/
def Method.Declares (m : Method) (p : ExtensionPoint) : Prop :=
  ∃ services lifetime, m.parameters = [services, lifetime] ∧ p = .ofMethod m services lifetime

namespace Unit

/-! ## Lines of both templates -/

/-- The line of a registration. -/
def registrationLine (margin services lifetime : String) (r : Registration) : String :=
  margin ++ services ++ ".Add(new " ++
    "global::Microsoft.Extensions.DependencyInjection.ServiceDescriptor(typeof(" ++ r.serviceType ++
    "), typeof(" ++ r.implementation ++ "), " ++ lifetime ++ "));"

/-- What follows the modifiers of a method. -/
def signature (methodName services lifetime : String) (hasDefault : Bool) : String :=
  "global::Microsoft.Extensions.DependencyInjection.IServiceCollection " ++ methodName ++
    "(this global::Microsoft.Extensions.DependencyInjection.IServiceCollection " ++ services ++
    ", global::Microsoft.Extensions.DependencyInjection.ServiceLifetime " ++ lifetime ++
    (if hasDefault then ")"
      else " = global::Microsoft.Extensions.DependencyInjection.ServiceLifetime.Transient)")

theorem registrationLine_eq (margin services lifetime : String) (r : Registration) :
    margin ++ registrationText r services lifetime =
      registrationLine margin services lifetime r := by
  have descriptor : "global::Microsoft.Extensions.DependencyInjection.ServiceDescriptor(typeof(" =
      underGlobal HostName.serviceDescriptor ++ "(typeof(" := rfl
  unfold registrationText registrationLine
  rw [descriptor]
  simp only [String.append_assoc]

/-- Modifiers that are all there. -/
theorem modifiers_of_nonempty {parts : List String} (h : ∀ part ∈ parts, part ≠ "") :
    modifiers parts = String.intercalate " " parts := by
  rw [modifiers, List.filter_eq_self.mpr]
  intro part among
  rw [Bool.not_eq_true', String.isEmpty_eq_false_iff]
  exact h part among

/-- A name behind modifiers, which may be empty. -/
theorem modifiers_named (keyword : String) {keyword' : String} (there : keyword' ≠ "")
    (name : String) :
    modifiers [keyword, keyword', name] =
      modifiers [keyword, keyword'] ++ (if name = "" then "" else " " ++ name) := by
  have kept : keyword'.isEmpty = false := String.isEmpty_eq_false_iff.mpr there
  by_cases nameless : name = ""
  · subst nameless
    simp [modifiers, List.filter_cons]
  · by_cases absent : keyword = ""
    all_goals simp [modifiers, kept, nameless, absent, String.append_assoc]

namespace MethodText

theorem declaration_eq (m : MethodText) :
    m.declaration =
      m.methodModifiers ++ " " ++
        signature m.methodName m.services m.lifetime (!m.restatesDefault) := by
  have returned : "global::Microsoft.Extensions.DependencyInjection.IServiceCollection " =
      underGlobal HostName.serviceCollection ++ " " := rfl
  have receiver : "(this global::Microsoft.Extensions.DependencyInjection.IServiceCollection " =
      "(this " ++ underGlobal HostName.serviceCollection ++ " " := rfl
  have second : ", global::Microsoft.Extensions.DependencyInjection.ServiceLifetime " =
      ", " ++ underGlobal HostName.serviceLifetime ++ " " := rfl
  have transient :
      " = global::Microsoft.Extensions.DependencyInjection.ServiceLifetime.Transient)" =
        " = " ++ underGlobal HostName.defaultLifetime ++ ")" := rfl
  unfold declaration signature
  rw [returned, receiver, second, transient]
  cases m.restatesDefault with
  | true =>
    simp only [Bool.not_true, Bool.false_eq_true, if_true, if_false, String.append_assoc]
  | false =>
    simp only [Bool.not_false, Bool.false_eq_true, if_true, if_false, String.append_assoc,
      String.empty_append]

/-- The class of a method behind a margin, four blanks deeper in each brace. -/
theorem classBlock_eq (m : MethodText) (registrations : List Registration) {depth : Nat}
    {margin : String} (indent : String.ofList (indentation depth) = margin) :
    m.classBlock registrations depth =
      [margin ++ m.classDeclaration, margin ++ "\x7b", margin ++ "    " ++ m.declaration,
        margin ++ "    \x7b"] ++
      registrations.map (registrationLine (margin ++ "        ") m.services m.lifetime) ++
      [margin ++ "        return " ++ m.services ++ ";", margin ++ "    \x7d",
        margin ++ "\x7d"] := by
  have deeper (depth : Nat) :
      String.ofList (indentation (depth + 1)) = String.ofList (indentation depth) ++ "    " := by
    rw [indentation, Nat.mul_succ, ← List.replicate_append_replicate, String.ofList_append]
    rfl
  have opened : "    \x7b" = "    " ++ "\x7b" := rfl
  have closed : "    \x7d" = "    " ++ "\x7d" := rfl
  have inner : "        " = "    " ++ "    " := rfl
  have returned : "        return " = "    " ++ ("    " ++ "return ") := rfl
  have added := List.map_congr_left (l := registrations) fun r _ =>
    registrationLine_eq (margin ++ "        ") m.services m.lifetime r
  rw [opened, closed, returned, ← added, inner]
  simp only [classBlock, bodyLines, braced, lineText, deeper, indent, List.cons_append,
    List.nil_append, List.append_assoc, String.append_assoc]

end MethodText

/-! ## Completions -/

/-- How the line that opens a completed class begins: of the degrees of accessibility only those of
a type outside of all others are written. -/
def classHead : Accessibility → String
  | .publicAccess => "public static partial class"
  | .internalAccess => "internal static partial class"
  | .protectedAccess | .privateProtected | .protectedInternal | .privateAccess =>
    "static partial class"

/-- How the line of a completed method begins: the protected degrees are not written. -/
def methodHead : Accessibility → String
  | .publicAccess => "public static partial "
  | .internalAccess => "internal static partial "
  | .privateAccess => "private static partial "
  | .protectedAccess | .privateProtected | .protectedInternal => "static partial "

/-- The lines of the class of a completed method with its two parameters, behind a margin. -/
def completedClass (margin : String) (m : Method) (services lifetime : Parameter)
    (registrations : List Registration) : List String :=
  [margin ++ classHead m.containingType.accessibility ++
      (if m.containingType.name = "" then "" else " " ++ m.containingType.name),
    margin ++ "\x7b",
    margin ++ "    " ++ methodHead m.accessibility ++
      signature m.name services.name lifetime.name lifetime.hasDefault,
    margin ++ "    \x7b"] ++
  registrations.map (registrationLine (margin ++ "        ") services.name lifetime.name) ++
  [margin ++ "        return " ++ services.name ++ ";",
    margin ++ "    \x7d",
    margin ++ "\x7d"]

/-- The lines of a completed method with its two parameters. -/
def completedLines (m : Method) (services lifetime : Parameter)
    (registrations : List Registration) : List String :=
  if m.namespaceName = "" then completedClass "" m services lifetime registrations
  else
    ["namespace " ++ m.namespaceName, "\x7b"] ++
      completedClass "    " m services lifetime registrations ++ ["\x7d"]

/-- The lines complete a method of two parameters. -/
def Completes (registrations : List Registration) (m : Method) (lines : List String) : Prop :=
  ∃ services lifetime, m.parameters = [services, lifetime] ∧
    lines = completedLines m services lifetime registrations

/-- The lines of a completion with some methods, an empty line before each. -/
def completionLines (methods : List (List String)) : List String :=
  ["// <auto-generated/>", "#nullable enable"] ++ methods.flatMap ("" :: ·)

namespace MethodText

variable (m : Method) (services lifetime : Parameter)

theorem classDeclaration_ofPoint :
    (ofPoint (.ofMethod m services lifetime)).classDeclaration =
      classHead m.containingType.accessibility ++
        (if m.containingType.name = "" then "" else " " ++ m.containingType.name) := by
  have head : modifiers [m.containingType.accessibility.typeKeyword, "static partial class"] =
      classHead m.containingType.accessibility := by
    cases m.containingType.accessibility
    all_goals rfl
  rw [← head]
  exact modifiers_named m.containingType.accessibility.typeKeyword (by decide) m.containingType.name

theorem declaration_ofPoint :
    (ofPoint (.ofMethod m services lifetime)).declaration =
      methodHead m.accessibility ++
        signature m.name services.name lifetime.name lifetime.hasDefault := by
  have head : (ofPoint (.ofMethod m services lifetime)).methodModifiers ++ " " =
      methodHead m.accessibility := by
    unfold ofPoint ExtensionPoint.ofMethod
    cases m.accessibility
    all_goals rfl
  rw [declaration_eq, head]
  unfold ofPoint ExtensionPoint.ofMethod
  rw [Bool.not_not]

/-- The block of a completed method is the template with its declaration in the slots. -/
theorem block_ofPoint (registrations : List Registration) :
    (ofPoint (.ofMethod m services lifetime)).block registrations =
      completedLines m services lifetime registrations := by
  have completed {depth : Nat} {margin : String}
      (indent : String.ofList (indentation depth) = margin) :
      (ofPoint (.ofMethod m services lifetime)).classBlock registrations depth =
        completedClass margin m services lifetime registrations := by
    rw [classBlock_eq _ _ indent, classDeclaration_ofPoint, declaration_ofPoint]
    simp only [completedClass, String.append_assoc]
    rfl
  have here : (ofPoint (.ofMethod m services lifetime)).namespaceName = m.namespaceName := rfl
  have outermost : String.ofList (indentation 0) = "" := rfl
  have once : String.ofList (indentation 1) = "    " := rfl
  unfold block completedLines
  rw [here, completed outermost, completed once]
  by_cases global : m.namespaceName = ""
  · rw [if_pos (String.isEmpty_iff.mpr global), if_pos global]
  · rw [if_neg (mt String.isEmpty_iff.mp global), if_neg global]
    rfl

end MethodText

/-- The unit of extension points that methods declare completes the methods, one each and in the
same order. -/
theorem completion_eq {methods : List Method} {points : List ExtensionPoint}
    (declared : List.Forall₂ Method.Declares methods points) (registrations : List Registration) :
    ∃ blocks, List.Forall₂ (Completes registrations) methods blocks ∧
      completion points registrations = textOfLines (completionLines blocks) := by
  refine ⟨points.map fun p => (MethodText.ofPoint p).block registrations, ?_, ?_⟩
  · rw [List.forall₂_map_right_iff]
    refine declared.imp ?_
    rintro m p ⟨services, lifetime, parameters, rfl⟩
    have block := MethodText.block_ofPoint m services lifetime registrations
    exact ⟨services, lifetime, parameters, block⟩
  · rw [completion, unitText_eq, completionLines, List.flatMap_map, List.flatMap_map]
    rfl

/-! ## Synthesized units -/

/-- The lines of a synthesized unit. -/
def synthesizedLines (n : Names) (registrations : List Registration) : List String :=
  ["// <auto-generated/>",
    "#nullable enable",
    "",
    "namespace " ++ n.namespaceName,
    "\x7b",
    "    " ++ n.accessModifier ++ " static class " ++ n.className,
    "    \x7b",
    "        " ++ n.accessModifier ++ " static " ++
      signature "AddGenerated" "services" "defaultLifetime" false,
    "        \x7b"] ++
  registrations.map (registrationLine "            " "services" "defaultLifetime") ++
  ["            return services;",
    "        \x7d",
    "    \x7d",
    "\x7d"]

theorem declaration_ofNames {n : Names} (modifier : n.accessModifier ≠ "") :
    (MethodText.ofNames n GeneratedUnit.synthesizedMethodName).declaration =
      n.accessModifier ++ " static " ++
        signature "AddGenerated" "services" "defaultLifetime" false := by
  have static : (MethodText.ofNames n GeneratedUnit.synthesizedMethodName).methodModifiers =
      n.accessModifier ++ " " ++ "static" := by
    change modifiers [n.accessModifier, "static"] = _
    rw [modifiers_of_nonempty (by simp [modifier]), String.intercalate_cons_cons,
      String.intercalate_singleton]
  have gap : " static " = " " ++ "static" ++ " " := rfl
  rw [MethodText.declaration_eq, static, gap]
  simp only [String.append_assoc]
  rfl

theorem classDeclaration_ofNames {n : Names} (modifier : n.accessModifier ≠ "")
    (className : n.className ≠ "") (methodName : String) :
    (MethodText.ofNames n methodName).classDeclaration =
      n.accessModifier ++ " static class " ++ n.className := by
  have gap : " static class " = " " ++ "static class" ++ " " := rfl
  unfold MethodText.ofNames
  rw [modifiers_of_nonempty (by simp [modifier, className]), gap]
  simp only [String.intercalate_cons_cons, String.intercalate_singleton, String.append_assoc]

/-- A synthesized unit is the template with the names in its slots. -/
theorem synthesized_eq {n : Names} (modifier : n.accessModifier ≠ "") (className : n.className ≠ "")
    (namespaceName : n.namespaceName ≠ "") (registrations : List Registration) :
    synthesized n GeneratedUnit.synthesizedMethodName registrations =
      textOfLines (synthesizedLines n registrations) := by
  have inside : n.namespaceName.isEmpty = false := String.isEmpty_eq_false_iff.mpr namespaceName
  have here : (MethodText.ofNames n GeneratedUnit.synthesizedMethodName).namespaceName =
      n.namespaceName := rfl
  have once : String.ofList (indentation 1) = "    " := rfl
  rw [synthesized, unitText_eq, List.flatMap_cons, List.flatMap_nil, MethodText.block, here, inside,
    MethodText.classBlock_eq _ _ once, declaration_ofNames modifier,
    classDeclaration_ofNames modifier className]
  simp only [synthesizedLines, braced, lineText, String.append_assoc, List.append_assoc,
    List.cons_append, List.nil_append, List.append_nil, Bool.false_eq_true, if_false]
  rfl

end Unit

end HandlerWiring
