import HandlerWiring.ExtensionPoint.Basic
import HandlerWiring.HostName
import HandlerWiring.Handler.Registration
import HandlerWiring.Setting.Resolution
import HandlerWiring.Unit.Layout

/-!
# Rendering units

The text of a generated source file. It starts with a fixed header and holds one extension method
or several; each adds every registration to its receiver, in the order in which they were found,
and returns the receiver. A completion takes its names and accessibilities from the declaration
and restates the default lifetime if the declaration has none. A synthesized method takes its
names from the settings.
-/

namespace HandlerWiring.Unit

/-- The first line of every unit. -/
def autoGeneratedHeader : String := "// <auto-generated/>"

/-- A qualified name under the global alias. -/
def underGlobal (name : String) : String := "global::" ++ name

/-- Modifiers with blanks between, the empty ones left out. -/
def modifiers (parts : List String) : String :=
  String.intercalate " " (parts.filter (!·.isEmpty))

/-- What differs from one method to another. -/
structure MethodText where
  namespaceName : String
  classDeclaration : String
  methodModifiers : String
  methodName : String
  services : String
  lifetime : String
  restatesDefault : Bool
deriving DecidableEq, Repr

/-- The statement that adds a registration. -/
def registrationText (r : Registration) (services lifetime : String) : String :=
  services ++ ".Add(new " ++ underGlobal HostName.serviceDescriptor ++ "(typeof(" ++
    r.serviceType ++ "), typeof(" ++ r.implementation ++ "), " ++ lifetime ++ "));"

namespace MethodText

/-- The declaration line of the method. -/
def declaration (m : MethodText) : String :=
  m.methodModifiers ++ " " ++ underGlobal HostName.serviceCollection ++ " " ++ m.methodName ++
    "(this " ++ underGlobal HostName.serviceCollection ++ " " ++ m.services ++ ", " ++
    underGlobal HostName.serviceLifetime ++ " " ++ m.lifetime ++
    (if m.restatesDefault then " = " ++ underGlobal HostName.defaultLifetime else "") ++ ")"

/-- The lines between the braces of the method. -/
def body (m : MethodText) (registrations : List Registration) : List Line :=
  registrations.map (fun r => .text (registrationText r m.services m.lifetime)) ++
    [.text ("return " ++ m.services ++ ";")]

/-- The lines of the class with the method. -/
def classLines (m : MethodText) (registrations : List Registration) : List Line :=
  [.text m.classDeclaration, .opening, .text m.declaration, .opening] ++ m.body registrations ++
    [.closing, .closing]

/-- The lines of the method, inside its namespace unless that is the global one. -/
def lines (m : MethodText) (registrations : List Registration) : List Line :=
  if m.namespaceName.isEmpty then m.classLines registrations
  else [.text ("namespace " ++ m.namespaceName), .opening] ++ m.classLines registrations ++
    [.closing]

/-- The completion of an extension point. -/
def ofPoint (p : ExtensionPoint) : MethodText :=
  { namespaceName := p.namespaceName
    classDeclaration :=
      modifiers [p.classAccessibility.typeKeyword, "static partial class", p.className]
    methodModifiers := modifiers [p.methodAccessibility.methodKeyword, "static partial"]
    methodName := p.methodName
    services := p.servicesParameter
    lifetime := p.lifetimeParameter
    restatesDefault := !p.lifetimeHasDefault }

/-- The synthesized method of a name. -/
def ofNames (n : Names) (methodName : String) : MethodText :=
  { namespaceName := n.namespaceName
    classDeclaration := modifiers [n.accessModifier, "static class", n.className]
    methodModifiers := modifiers [n.accessModifier, "static"]
    methodName
    services := HostName.servicesParameter
    lifetime := HostName.lifetimeParameter
    restatesDefault := true }

end MethodText

/-- The header of every unit. -/
def header : List Line := [.text autoGeneratedHeader, .text "#nullable enable"]

/-- The lines of a unit with some methods, an empty line before each. -/
def unitLines (methods : List MethodText) (registrations : List Registration) : List Line :=
  header ++ methods.flatMap fun m => .blank :: m.lines registrations

/-- The text of a unit with some methods. -/
def unitText (methods : List MethodText) (registrations : List Registration) : String :=
  String.ofList (layOut 0 (unitLines methods registrations))

/-- The unit that completes extension points. -/
def completion (points : List ExtensionPoint) (registrations : List Registration) : String :=
  unitText (points.map .ofPoint) registrations

/-- The unit with one synthesized method. -/
def synthesized (n : Names) (methodName : String) (registrations : List Registration) : String :=
  unitText [.ofNames n methodName] registrations

end HandlerWiring.Unit
