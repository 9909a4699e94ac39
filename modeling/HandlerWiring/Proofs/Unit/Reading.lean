import HandlerWiring.Proofs.Unit.Mark

/-!
# Reading a unit

A unit is read back from its text alone. Empty lines separate its methods, and the body of a method
is what stands in the innermost of its braces: a statement a line, and the return behind them. In a
statement the receiver ends at the first dot, the service type where the implementation begins, and
the lifetime begins behind the last blank.

The reading of a printed unit gives what was printed, for parameters that are words, texts of one
line, and service types without the mark that separates them from the implementation. Nothing
else is asked of the types: they may have commas, brackets and blanks in them. Of the headings only
that of a namespace is looked at, for the braces that come with it.
-/

namespace HandlerWiring

open Text (dropPrefix?_append dropSuffix?_append dropInfix?_append dropInfix?_singleton)

namespace Unit

/-! ## What is read -/

/-- What a statement adds, to which receiver and for which lifetime. -/
structure Statement where
  receiver : String
  serviceType : String
  implementation : String
  lifetime : String
deriving DecidableEq, Repr

/-- The statements of a method in their order, and what it returns behind the last. -/
structure Body where
  statements : List Statement
  returned : String
deriving DecidableEq, Repr

/-! ## Marks -/

/-- What stands between the dot behind the receiver and the service type. -/
def descriptorMark : List Char :=
  ("Add(new " ++ underGlobal HostName.serviceDescriptor ++ "(typeof(").toList

/-- What stands between the service type and the implementation. -/
def betweenTypes : List Char := "), typeof(".toList

/-- What stands between the implementation and the lifetime. -/
def beforeLifetime : List Char := "), ".toList

/-- What a statement ends with. -/
def endOfStatement : List Char := "));".toList

/-- What a return begins with. -/
def returnMark : List Char := "return ".toList

/-- What the heading of a namespace begins with. -/
def namespaceMark : List Char := "namespace ".toList

/-! ## Readers -/

/-- The statement in a line at a depth. -/
def readStatement? (depth : Nat) (line : List Char) : Option Statement := do
  let code ← line.dropPrefix? (indentation depth)
  let (receiver, code) ← code.dropInfix? ['.']
  let code ← code.dropPrefix? descriptorMark
  let (serviceType, code) ← code.dropInfix? betweenTypes
  let code ← code.dropSuffix? endOfStatement
  -- The implementation may have the mark before the lifetime in it, so the last one counts.
  let (lifetime, implementation) ← code.reverse.dropInfix? beforeLifetime.reverse
  return ⟨.ofList receiver, .ofList serviceType, .ofList implementation.reverse,
    .ofList lifetime.reverse⟩

/-- What the return in a line at a depth gives back. -/
def readReturn? (depth : Nat) (line : List Char) : Option String := do
  let code ← line.dropPrefix? (indentation depth ++ returnMark)
  let code ← code.dropSuffix? [';']
  return .ofList code

/-- The body in some lines at a depth. -/
def readBody? (depth : Nat) (lines : List (List Char)) : Option Body := do
  let last ← lines.getLast?
  let returned ← readReturn? depth last
  let statements ← lines.dropLast.mapM (readStatement? depth)
  return ⟨statements, returned⟩

/-- What stands in the braces below a heading at a depth, and nothing behind them. -/
def insideBraces? (depth : Nat) : List (List Char) → Option (List (List Char))
  | _ :: opening :: rest =>
    if opening = indentation depth ++ ['\x7b'] ∧
        rest.getLast? = some (indentation depth ++ ['\x7d']) then
      some rest.dropLast
    else none
  | _ => none

/-- The body of a method: inside its own braces, those of its class and, if it has one, those of its
namespace. -/
def readMethod? (lines : List (List Char)) : Option Body := do
  let heading ← lines.head?
  if namespaceMark.isPrefixOf heading then
    let type ← insideBraces? 0 lines
    let method ← insideBraces? 1 type
    let body ← insideBraces? 2 method
    readBody? 3 body
  else
    let method ← insideBraces? 0 lines
    let body ← insideBraces? 1 method
    readBody? 2 body

/-- The bodies of the methods of a unit; the header stands before the first empty line. -/
def bodies? (source : String) : Option (List Body) :=
  ((Text.lines source.toList).dropLast.splitOn []).tail.mapM readMethod?

/-! ## What can be read -/

end Unit

/-- A registration whose texts are lines, and whose service type does not have in it what separates
it from the implementation. -/
structure Registration.Legible (r : Registration) : Prop where
  definition : OneLine r.interface.definition
  typeArguments : ∀ argument ∈ r.interface.typeArguments, OneLine argument
  implementation : OneLine r.implementation
  apart : ¬Unit.betweenTypes <:+: r.serviceType.toList

theorem Registration.Legible.lacks {r : Registration} (h : r.Legible) : r.Lacks '\n' :=
  ⟨h.definition, h.typeArguments, h.implementation⟩

namespace Unit

/-- A method whose texts are lines, whose parameters are words, and whose class has a heading that
does not begin like that of a namespace. -/
structure MethodText.Legible (m : MethodText) : Prop where
  namespaceName : OneLine m.namespaceName
  classDeclaration : OneLine m.classDeclaration
  methodModifiers : OneLine m.methodModifiers
  methodName : OneLine m.methodName
  services : IsWord m.services
  lifetime : IsWord m.lifetime
  modified : ∃ c cs, m.classDeclaration.toList = c :: cs ∧ c ≠ 'n'

/-- The body that adds some registrations to a receiver for a lifetime, and returns the
receiver. -/
def Body.adding (registrations : List Registration) : String × String → Body
  | (services, lifetime) =>
    { statements := registrations.map fun r =>
        ⟨services, r.serviceType, r.implementation, lifetime⟩
      returned := services }

/-! ## One line -/

theorem toList_registrationText (r : Registration) (services lifetime : String) :
    (registrationText r services lifetime).toList =
      services.toList ++ ['.'] ++ (descriptorMark ++ (r.serviceType.toList ++ betweenTypes ++
        (r.implementation.toList ++ beforeLifetime ++ lifetime.toList ++ endOfStatement))) := by
  have front : ".Add(new ".toList = ['.'] ++ "Add(new ".toList := rfl
  unfold registrationText descriptorMark betweenTypes beforeLifetime endOfStatement
  simp only [String.toList_append, List.append_assoc, front]

/-- The lifetime is what stands behind the last mark, whatever the implementation has in it. -/
theorem dropInfix?_lifetime {lifetime : List Char} (blank : ' ' ∉ lifetime)
    (implementation : List Char) :
    (implementation ++ beforeLifetime ++ lifetime).reverse.dropInfix? beforeLifetime.reverse =
      some (lifetime.reverse, implementation.reverse) := by
  have clean : ¬beforeLifetime.reverse <:+: lifetime.reverse :=
    fun among => blank (List.mem_reverse.mp (among.subset List.mem_cons_self))
  rw [List.reverse_append, List.reverse_append, ← List.append_assoc]
  exact dropInfix?_append (by decide) clean implementation.reverse

/-- The statement of a registration tells the registration. -/
theorem readStatement?_registrationText {r : Registration} (legible : r.Legible)
    {services lifetime : String} (receiver : IsWord services) (word : IsWord lifetime)
    (depth : Nat) :
    readStatement? depth (lineText depth (registrationText r services lifetime)).toList =
      some ⟨services, r.serviceType, r.implementation, lifetime⟩ := by
  have dot : '.' ∉ services.toList := receiver.not_mem (by decide +kernel)
  have blank : ' ' ∉ lifetime.toList := word.not_mem (by decide +kernel)
  have types (behind : List Char) :
      (r.serviceType.toList ++ betweenTypes ++ behind).dropInfix? betweenTypes =
        some (r.serviceType.toList, behind) :=
    dropInfix?_append (by decide) legible.apart behind
  rw [readStatement?, toList_lineText, toList_registrationText]
  simp only [dropPrefix?_append, dropInfix?_singleton dot, types, dropSuffix?_append,
    dropInfix?_lifetime blank, Option.bind_eq_bind, Option.bind_some, List.reverse_reverse,
    String.ofList_toList]
  rfl

/-- The return of a method tells what it returns. -/
theorem readReturn?_lineText (depth : Nat) (services : String) :
    readReturn? depth (lineText depth ("return " ++ services ++ ";")).toList = some services := by
  have spelt : (lineText depth ("return " ++ services ++ ";")).toList =
      (indentation depth ++ returnMark) ++ (services.toList ++ [';']) := by
    rw [toList_lineText, String.toList_append, String.toList_append, List.append_assoc,
      List.append_assoc]
    rfl
  rw [readReturn?, spelt]
  simp only [dropPrefix?_append, dropSuffix?_append, Option.bind_eq_bind, Option.bind_some,
    String.ofList_toList]
  rfl

/-! ## One method -/

/-- What is read from each of some texts is read from all. -/
theorem mapM_map_eq_some {f : α → γ} {read : γ → Option β} {told : α → β} {xs : List α}
    (each : ∀ x ∈ xs, read (f x) = some (told x)) :
    (xs.map f).mapM read = some (xs.map told) := by
  induction xs with
  | nil => rfl
  | cons x xs ih =>
    rw [List.map_cons, List.mapM_cons, each x List.mem_cons_self,
      ih fun y among => each y (List.mem_cons_of_mem x among)]
    rfl

/-- The lines of a body tell the body. -/
theorem readBody?_bodyLines {m : MethodText} (legible : m.Legible)
    {registrations : List Registration} (each : ∀ r ∈ registrations, r.Legible) (depth : Nat) :
    readBody? depth ((m.bodyLines registrations depth).map String.toList) =
      some (.adding registrations (m.services, m.lifetime)) := by
  have statements := mapM_map_eq_some fun r among =>
    readStatement?_registrationText (each r among) legible.services legible.lifetime depth
  rw [MethodText.bodyLines, List.map_append, List.map_map, List.map_singleton, readBody?,
    List.getLast?_concat, List.dropLast_concat, Function.comp_def, statements]
  simp only [Option.bind_eq_bind, Option.bind_some, readReturn?_lineText]
  rfl

/-- Braces tell what is in them. -/
theorem insideBraces?_braced (depth : Nat) (heading : String) (inner : List String) :
    insideBraces? depth ((braced depth heading inner).map String.toList) =
      some (inner.map String.toList) := by
  have spelt : (braced depth heading inner).map String.toList =
      (lineText depth heading).toList :: (lineText depth "\x7b").toList ::
        (inner.map String.toList ++ [(lineText depth "\x7d").toList]) := by
    rw [braced, List.map_append, List.map_append]
    rfl
  rw [spelt, insideBraces?, toList_lineText depth "\x7b", toList_lineText depth "\x7d",
    if_pos ⟨rfl, List.getLast?_concat⟩, List.dropLast_concat]

/-- The lines of a method tell its body, in a namespace or outside. -/
theorem readMethod?_block {m : MethodText} (legible : m.Legible)
    {registrations : List Registration} (each : ∀ r ∈ registrations, r.Legible) :
    readMethod? ((m.block registrations).map String.toList) =
      some (.adding registrations (m.services, m.lifetime)) := by
  have body := readBody?_bodyLines legible each
  unfold MethodText.block
  split
  · obtain ⟨c, cs, spelt, other⟩ := legible.modified
    have heading : ((m.classBlock registrations 0).map String.toList).head? =
        some (c :: cs) := by
      rw [← spelt]
      rfl
    have unlike : namespaceMark.isPrefixOf (c :: cs) = false := by
      have first : namespaceMark.isPrefixOf (c :: cs) =
          ('n' == c && "amespace ".toList.isPrefixOf cs) := rfl
      rw [first, beq_eq_false_iff_ne.mpr other.symm, Bool.false_and]
    rw [readMethod?, heading]
    simp only [Option.bind_eq_bind, Option.bind_some, unlike, Bool.false_eq_true, if_false,
      MethodText.classBlock, insideBraces?_braced, body]
  · have spelt : (lineText 0 ("namespace " ++ m.namespaceName)).toList =
        namespaceMark ++ m.namespaceName.toList := by
      rw [toList_lineText, String.toList_append]
      rfl
    have heading : ((braced 0 ("namespace " ++ m.namespaceName)
        (m.classBlock registrations 1)).map String.toList).head? =
        some (namespaceMark ++ m.namespaceName.toList) := by
      rw [← spelt]
      rfl
    have like : namespaceMark.isPrefixOf (namespaceMark ++ m.namespaceName.toList) = true :=
      List.isPrefixOf_iff_prefix.mpr (List.prefix_append _ _)
    rw [readMethod?, heading]
    simp only [Option.bind_eq_bind, Option.bind_some, like, if_true, MethodText.classBlock,
      insideBraces?_braced, body]

/-! ## One unit -/

/-- Blocks that have no empty line and stand below empty ones are found again. -/
theorem splitOn_blocks {front : List (List Char)} (clean : [] ∉ front)
    {blocks : List (List (List Char))} (each : ∀ block ∈ blocks, [] ∉ block) :
    (front ++ blocks.flatMap fun block => [] :: block).splitOn [] = front :: blocks := by
  induction blocks generalizing front with
  | nil => rw [List.flatMap_nil, List.append_nil, List.splitOn_eq_singleton clean]
  | cons block rest ih =>
    rw [List.flatMap_cons, List.cons_append, List.splitOn_append_cons_self_of_not_mem clean,
      ih (each block List.mem_cons_self) fun other among =>
        each other (List.mem_cons_of_mem block among)]

theorem MethodText.Legible.lacks {m : MethodText} (h : m.Legible) : m.Lacks '\n' where
  namespaceName := h.namespaceName
  classDeclaration := h.classDeclaration
  methodModifiers := h.methodModifiers
  methodName := h.methodName
  services := h.services.oneLine
  lifetime := h.lifetime.oneLine

theorem MethodText.Legible.declared {m : MethodText} (h : m.Legible) : m.classDeclaration ≠ "" := by
  intro empty
  obtain ⟨c, cs, spelt, -⟩ := h.modified
  rw [empty] at spelt
  cases spelt

/-- Each text of a unit is one line. -/
theorem oneLine_of_mem_unitLines {methods : List MethodText} (legible : ∀ m ∈ methods, m.Legible)
    {registrations : List Registration} (each : ∀ r ∈ registrations, r.Legible) {s : String}
    (among : .text s ∈ unitLines methods registrations) : OneLine s := by
  have title : ∀ s ∈ [autoGeneratedHeader, "#nullable enable"], OneLine s := by decide
  rcases text_mem_unitLines among with among | ⟨m, member, among⟩
  · exact title s among
  · exact not_mem_text lineFeed_mem (legible m member).lacks (fun r among => (each r among).lacks)
      among

/-- A unit tells the bodies of its methods. -/
theorem bodies?_unitText {methods : List MethodText} (legible : ∀ m ∈ methods, m.Legible)
    {registrations : List Registration} (each : ∀ r ∈ registrations, r.Legible) :
    bodies? (unitText methods registrations) =
      some (methods.map fun m => .adding registrations (m.services, m.lifetime)) := by
  have oneLine : ∀ line ∈ [autoGeneratedHeader, "#nullable enable"] ++
      methods.flatMap (fun m => "" :: m.block registrations), OneLine line := by
    rw [← indented_unitLines]
    exact fun line => oneLine_of_mem_indented fun s => oneLine_of_mem_unitLines legible each
  have clean : ∀ block ∈ methods.map (fun m => (m.block registrations).map String.toList),
      [] ∉ block := by
    intro block among empty
    obtain ⟨m, member, rfl⟩ := List.mem_map.mp among
    obtain ⟨line, inBlock, spelt⟩ := List.mem_map.mp empty
    exact MethodText.ne_empty_of_mem_block (legible m member).declared inBlock
      (String.toList_eq_nil_iff.mp spelt)
  have header : [] ∉ [autoGeneratedHeader, "#nullable enable"].map String.toList := by decide
  have laidOut : (methods.flatMap fun m => "" :: m.block registrations).map String.toList =
      (methods.map fun m => (m.block registrations).map String.toList).flatMap
        fun block => [] :: block := by
    rw [List.map_flatMap, List.flatMap_map]
    rfl
  rw [bodies?, unitText_eq, Text.lines_textOfLines oneLine, List.dropLast_concat, List.map_append,
    laidOut, splitOn_blocks header clean, List.tail_cons]
  exact mapM_map_eq_some fun m among => readMethod?_block (legible m among) each

end Unit

end HandlerWiring
