import HandlerWiring.Declaration.Location

/-!
# Diagnostics

A diagnostic reports one rejected extension point. Its code tells which condition was violated.
The generator itself only warns; a caller that takes warnings for errors escalates them.
-/

namespace HandlerWiring

open Json

/-- The condition that a rejected extension point violates. -/
inductive Code where
  | mustBePartial
  | mustNotHaveImplementation
  | mustBeExtensionMethod
  | invalidParameterCount
  | invalidServicesParameterType
  | invalidLifetimeParameterType
  | invalidReturnType
  | unsupportedModifier
  | invalidAccessibility
  | mustBeStatic
  | invalidParameterName
deriving DecidableEq, Repr

namespace Code

/-- The codes in the order of their numbers. -/
def all : List Code :=
  [.mustBePartial, .mustNotHaveImplementation, .mustBeExtensionMethod, .invalidParameterCount,
    .invalidServicesParameterType, .invalidLifetimeParameterType, .invalidReturnType,
    .unsupportedModifier, .invalidAccessibility, .mustBeStatic, .invalidParameterName]

/-- The stable text of a code. -/
def text : Code → String
  | .mustBePartial => "CQRSDI0001"
  | .mustNotHaveImplementation => "CQRSDI0002"
  | .mustBeExtensionMethod => "CQRSDI0003"
  | .invalidParameterCount => "CQRSDI0004"
  | .invalidServicesParameterType => "CQRSDI0005"
  | .invalidLifetimeParameterType => "CQRSDI0006"
  | .invalidReturnType => "CQRSDI0007"
  | .unsupportedModifier => "CQRSDI0008"
  | .invalidAccessibility => "CQRSDI0009"
  | .mustBeStatic => "CQRSDI0010"
  | .invalidParameterName => "CQRSDI0011"

/-- What is wrong, in a few words. -/
def title : Code → String
  | .mustBePartial => "Method must be partial"
  | .mustNotHaveImplementation => "Method can not have an implementation"
  | .mustBeExtensionMethod => "Must be an extension method"
  | .invalidParameterCount => "Invalid parameter count"
  | .invalidServicesParameterType => "Invalid parameter type"
  | .invalidLifetimeParameterType => "Invalid parameter type"
  | .invalidReturnType => "Invalid return type"
  | .unsupportedModifier => "Unsupported method modifier"
  | .invalidAccessibility => "Invalid accessibility"
  | .mustBeStatic => "Method must be static"
  | .invalidParameterName => "Invalid parameter name"

end Code

/-- How a diagnostic is taken. -/
inductive Severity where
  | warning
  | error
deriving DecidableEq, Repr

namespace Severity

/-- The name of a severity. -/
def text : Severity → String
  | .warning => "warning"
  | .error => "error"

/-- The position of a severity among the two names. -/
def toIndex : Severity → Fin 2
  | .warning => 0
  | .error => 1

/-- The severity at a position. -/
def ofIndex : Fin 2 → Severity
  | 0 => .warning
  | 1 => .error

/-- How a severity stands in documents. -/
def form : Form Severity where
  schema := .name ["warning", "error"]
  toRow := toIndex
  ofRow := ofIndex
  ofRow_toRow s := by cases s <;> rfl

end Severity

/-- A report about one rejected extension point. -/
structure Diagnostic where
  code : Code
  severity : Severity
  message : String
  /-- The qualified name of the method. -/
  method : String
  location : Option Location
deriving DecidableEq, Repr

namespace Diagnostic

/-- The category of every diagnostic. -/
def category : String := "CQRSToolkit.Generator"

/-- A warning. -/
def warn (code : Code) (method message : String) (location : Option Location) : Diagnostic :=
  { code, severity := .warning, message, method, location }

/-- The diagnostic taken for an error. -/
def escalate (d : Diagnostic) : Diagnostic := { d with severity := .error }

/-- A diagnostic as one line: its location if it has one, severity, code and message. -/
def text (d : Diagnostic) : String :=
  (match d.location with
    | some l => l.text ++ ": "
    | none => "") ++
    d.severity.text ++ " " ++ d.code.text ++ ": " ++ d.message

end Diagnostic

end HandlerWiring
