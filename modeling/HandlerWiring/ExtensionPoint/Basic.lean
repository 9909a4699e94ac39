import HandlerWiring.Declaration.Method

/-!
# Extension points

A marked method that was accepted, with everything needed to complete it.
-/

namespace HandlerWiring

open Json

/-- A method that generated code completes. -/
structure ExtensionPoint where
  /-- The enclosing namespace, empty for the global one. -/
  namespaceName : String
  className : String
  classAccessibility : Accessibility
  methodName : String
  methodAccessibility : Accessibility
  /-- The name of the receiver. -/
  servicesParameter : String
  /-- The name of the lifetime parameter. -/
  lifetimeParameter : String
  /-- Whether the declaration gives the lifetime a default. -/
  lifetimeHasDefault : Bool
  location : Option Location
deriving DecidableEq, Repr

namespace ExtensionPoint

/-- The name of the method with its class and namespace. -/
def qualifiedName (p : ExtensionPoint) : String :=
  qualify p.namespaceName p.className p.methodName

/-- How an extension point stands in documents. -/
def form : Form ExtensionPoint where
  schema := .record "ExtensionPoint" false <|
    .field "namespace" .required .text <|
    .field "class_name" .required .text <|
    .field "class_accessibility" .required Accessibility.form.schema <|
    .field "method_name" .required .text <|
    .field "method_accessibility" .required Accessibility.form.schema <|
    .field "services_parameter" .required .text <|
    .field "lifetime_parameter" .required .text <|
    .field "lifetime_has_default" .required .flag <|
    .field "location" .omissible (.optional Location.form.schema) .none
  toRow p :=
    (p.namespaceName, p.className, Accessibility.form.toRow p.classAccessibility, p.methodName,
      Accessibility.form.toRow p.methodAccessibility, p.servicesParameter, p.lifetimeParameter,
      p.lifetimeHasDefault, p.location.map Location.form.toRow, ())
  ofRow := fun (namespaceName, className, classAccessibility, methodName, methodAccessibility,
      servicesParameter, lifetimeParameter, lifetimeHasDefault, location, ()) =>
    { namespaceName, className, methodName, servicesParameter, lifetimeParameter
      lifetimeHasDefault
      classAccessibility := Accessibility.form.ofRow classAccessibility
      methodAccessibility := Accessibility.form.ofRow methodAccessibility
      location := Option.map Location.form.ofRow location }
  ofRow_toRow p := by simp

end ExtensionPoint

end HandlerWiring
