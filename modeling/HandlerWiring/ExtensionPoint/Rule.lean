import HandlerWiring.Declaration.Interface
import HandlerWiring.Diagnostic
import HandlerWiring.ExtensionPoint.Basic
import HandlerWiring.ExtensionPoint.Strictness
import HandlerWiring.HostName

/-!
# The rules for extension points

Eleven rules, tried in a fixed order. The first one that a marked method violates rejects it with
one warning; a method that violates none becomes an extension point. A rule about a parameter
blames the location of that parameter, the rule about a second body the location of that body,
and each of them falls back to the location of the method.
-/

namespace HandlerWiring

/-- A condition on methods, with the diagnostic of a violation. -/
abbrev Rule := Strictness → Method → Option Diagnostic

namespace Rule

/-- The ending shared by the messages. -/
def toUseMarker : String := " to use " ++ HostName.markerAttribute ++ "."

/-- A warning about a method. -/
def reject (m : Method) (code : Code) (message : String) : Option Diagnostic :=
  some (.warn code m.qualifiedName message m.location)

/-- A warning about a parameter of a method. -/
def rejectParameter (m : Method) (p : Parameter) (code : Code) (message : String) :
    Option Diagnostic :=
  some (.warn code m.qualifiedName message (p.location <|> m.location))

/-- Whether a declared type is a well-known one, the global alias aside. -/
def isType (declared expected : String) : Bool :=
  withoutAlias declared.toList == expected.toList

/-- The message about a wrong number of parameters. -/
def parameterCountMessage (m : Method) : String :=
  "Method " ++ m.name ++ " signature must match (this IServiceCollection, ServiceLifetime)" ++
    toUseMarker

def mustBePartial : Rule := fun _ m =>
  match m.completeness with
  | .implemented | .notPartial =>
    reject m .mustBePartial
      ("Method " ++ m.name ++ " must be an unimplemented \"partial\" method" ++ toUseMarker)
  | .declaration | .separateImplementation _ => none

def mustNotHaveImplementation : Rule := fun _ m =>
  match m.completeness with
  | .separateImplementation location =>
    some (.warn .mustNotHaveImplementation m.qualifiedName
      ("Method " ++ m.name ++ " must not have an implementation provided" ++ toUseMarker)
      (location <|> m.location))
  | .declaration | .implemented | .notPartial => none

def mustBeExtensionMethod : Rule := fun _ m =>
  if m.isExtension then none
  else reject m .mustBeExtensionMethod
    ("Method " ++ m.name ++ " must be an extension method" ++ toUseMarker)

def mustBeStatic : Rule := fun s m =>
  if s.requireStatic && !m.isStatic then
    reject m .mustBeStatic ("Method " ++ m.name ++ " must be static" ++ toUseMarker)
  else none

/-- The first modifier of a method that generated code cannot complete. -/
def unsupportedModifier? (m : Method) : Option String :=
  if m.isVirtual then some "virtual"
  else if m.isAbstract then some "abstract"
  else if m.isAsync then some "async"
  else none

def noUnsupportedModifier : Rule := fun _ m =>
  match unsupportedModifier? m with
  | some modifier =>
    reject m .unsupportedModifier
      ("Method " ++ m.name ++ " must not be " ++ modifier ++ toUseMarker)
  | none => none

def twoParameters : Rule := fun _ m =>
  if m.parameters.length = 2 then none
  else reject m .invalidParameterCount (parameterCountMessage m)

def servicesParameterType : Rule := fun _ m =>
  match m.parameters with
  | p :: _ =>
    if isType p.type HostName.serviceCollection then none
    else rejectParameter m p .invalidServicesParameterType
      ("Parameter \"" ++ p.name ++ "\" must be of type \"IServiceCollection\"" ++ toUseMarker)
  | [] => none

def lifetimeParameterType : Rule := fun _ m =>
  match m.parameters with
  | _ :: p :: _ =>
    if isType p.type HostName.serviceLifetime then none
    else rejectParameter m p .invalidLifetimeParameterType
      ("Parameter \"" ++ p.name ++ "\" must be of type \"ServiceLifetime\"" ++ toUseMarker)
  | _ => none

/-- The first parameter whose name is not taken for the expected one. -/
def misnamed? (matching : NameMatching) (parameters : List Parameter) :
    Option (Parameter × String) :=
  (parameters.zip [HostName.servicesParameter, HostName.lifetimeParameter]).find? fun pair =>
    !matching.accepts pair.1.name pair.2

def parameterNames : Rule := fun s m =>
  match misnamed? s.parameterNames m.parameters with
  | some (p, expected) =>
    rejectParameter m p .invalidParameterName
      ("Parameter \"" ++ p.name ++ "\" must be named \"" ++ expected ++ "\"" ++ toUseMarker)
  | none => none

def returnsServiceCollection : Rule := fun _ m =>
  if isType m.returnType HostName.serviceCollection then none
  else reject m .invalidReturnType ("Return type must be \"IServiceCollection\"" ++ toUseMarker)

def notProtected : Rule := fun _ m =>
  if m.accessibility.isProtected then
    reject m .invalidAccessibility
      ("Method " ++ m.name ++ " must not be " ++ m.accessibility.text ++ toUseMarker)
  else none

/-- The rules in the order in which they are tried. -/
def all : List Rule :=
  [mustBePartial, mustNotHaveImplementation, mustBeExtensionMethod, mustBeStatic,
    noUnsupportedModifier, twoParameters, servicesParameterType, lifetimeParameterType,
    parameterNames, returnsServiceCollection, notProtected]

/-- The first violation of a method. -/
def firstViolation (s : Strictness) (m : Method) : Option Diagnostic :=
  all.findSome? fun rule => rule s m

end Rule

/-- The extension point that a method declares with its two parameters. -/
def ExtensionPoint.ofMethod (m : Method) (services lifetime : Parameter) : ExtensionPoint :=
  { namespaceName := m.namespaceName
    className := m.containingType.name
    classAccessibility := m.containingType.accessibility
    methodName := m.name
    methodAccessibility := m.accessibility
    servicesParameter := services.name
    lifetimeParameter := lifetime.name
    lifetimeHasDefault := lifetime.hasDefault
    location := m.location }

/-- Try the rules on a method: the extension point it declares, or the first violation. -/
def Method.validate (s : Strictness) (m : Method) : Except Diagnostic ExtensionPoint :=
  match Rule.firstViolation s m with
  | some d => .error d
  | none =>
    match m.parameters with
    | [services, lifetime] => .ok (.ofMethod m services lifetime)
    | _ =>
      .error (.warn .invalidParameterCount m.qualifiedName (Rule.parameterCountMessage m)
        m.location)

end HandlerWiring
