import HandlerWiring.Declaration.Accessibility
import HandlerWiring.Declaration.Location

/-!
# Method declarations

A method with everything the rules for extension points ask about: its modifiers, whether some
fragment of it has a body, its parameters and its return type. A method marked as an extension
point asks to be completed by generated code.
-/

namespace HandlerWiring

open Json

/-- A parameter of a method. -/
structure Parameter where
  name : String
  /-- The qualified declared type. -/
  type : String
  /-- Whether the declaration gives a default value. -/
  hasDefault : Bool
  location : Option Location
deriving DecidableEq, Repr

/-- How far a method is implemented. -/
inductive Completeness where
  /-- A partial declaration; no fragment has a body. -/
  | declaration
  /-- Without a body, and not declared partial. -/
  | notPartial
  /-- The marked fragment has a body. -/
  | implemented
  /-- Another fragment has a body. -/
  | separateImplementation (location : Option Location)
deriving DecidableEq, Repr

/-- Whether a method carries the extension point marker. -/
inductive Role where
  | ordinary
  | extensionPoint
deriving DecidableEq, Repr

/-- The type a method is declared in. -/
structure ContainingType where
  /-- The simple name. -/
  name : String
  accessibility : Accessibility
deriving DecidableEq, Repr

/-- A method declaration. -/
structure Method where
  name : String
  role : Role
  accessibility : Accessibility
  isStatic : Bool
  isVirtual : Bool
  isAbstract : Bool
  isAsync : Bool
  /-- Whether the first parameter is the receiver. -/
  isExtension : Bool
  completeness : Completeness
  parameters : List Parameter
  /-- The qualified declared return type. -/
  returnType : String
  containingType : ContainingType
  /-- The enclosing namespace, empty for the global one. -/
  namespaceName : String
  location : Option Location
deriving DecidableEq, Repr

/-- Namespace, type and member with dots between; the global namespace is left out. -/
def qualify (namespaceName typeName member : String) : String :=
  if namespaceName.isEmpty then typeName ++ "." ++ member
  else namespaceName ++ "." ++ typeName ++ "." ++ member

namespace Parameter

/-- A parameter without default and location. -/
def ofType (name type : String) : Parameter :=
  { name, type, hasDefault := false, location := none }

/-- How a parameter stands in documents. -/
def form : Form Parameter where
  schema := .record "Parameter" true <|
    .field "name" .required .text <|
    .field "type" .required .text <|
    .field "has_default" .omissible .flag <|
    .field "location" .omissible (.optional Location.form.schema) .none
  toRow p := (p.name, p.type, p.hasDefault, p.location.map Location.form.toRow, ())
  ofRow := fun (name, type, hasDefault, location, ()) =>
    { name, type, hasDefault, location := Option.map Location.form.ofRow location }
  ofRow_toRow p := by simp

end Parameter

/-- How a completeness stands in documents: a record told apart by its state. -/
def Completeness.form : Form Completeness where
  schema := .tagged "Completeness" "state" <|
    .case "declaration" .none <|
    .case "not_partial" .none <|
    .case "implemented" .none <|
    .case "separate_implementation"
      (.field "location" .omissible (.optional Location.form.schema) .none) .none
  toRow
    | .declaration => .inl ()
    | .notPartial => .inr (.inl ())
    | .implemented => .inr (.inr (.inl ()))
    | .separateImplementation location =>
      .inr (.inr (.inr (.inl (location.map Location.form.toRow, ()))))
  ofRow
    | .inl () => .declaration
    | .inr (.inl ()) => .notPartial
    | .inr (.inr (.inl ())) => .implemented
    | .inr (.inr (.inr (.inl (location, ())))) =>
      .separateImplementation (Option.map Location.form.ofRow location)
  ofRow_toRow c := by cases c <;> simp

namespace Role

/-- The position of a role among the two names. -/
def toIndex : Role → Fin 2
  | .ordinary => 0
  | .extensionPoint => 1

/-- The role at a position. -/
def ofIndex : Fin 2 → Role
  | 0 => .ordinary
  | 1 => .extensionPoint

/-- How a role stands in documents. -/
def form : Form Role where
  schema := .name ["ordinary", "extension_point"]
  toRow := toIndex
  ofRow := ofIndex
  ofRow_toRow r := by cases r <;> rfl

end Role

/-- How a containing type stands in documents. -/
def ContainingType.form : Form ContainingType where
  schema := .record "ContainingType" true <|
    .field "name" .required .text <|
    .field "accessibility" .required Accessibility.form.schema .none
  toRow t := (t.name, Accessibility.form.toRow t.accessibility, ())
  ofRow := fun (name, accessibility, ()) => ⟨name, Accessibility.form.ofRow accessibility⟩
  ofRow_toRow t := by simp

namespace Method

/-- A public, non-static partial declaration without parameters that returns nothing, in a public
type of the global namespace. -/
def ofName (name typeName : String) : Method :=
  { name, role := .ordinary, accessibility := .publicAccess, isStatic := false
    isVirtual := false, isAbstract := false, isAsync := false, isExtension := false
    completeness := .declaration, parameters := [], returnType := "void"
    containingType := ⟨typeName, .publicAccess⟩, namespaceName := "", location := none }

/-- Whether the method carries the marker. -/
def isExtensionPoint (m : Method) : Bool := m.role == .extensionPoint

/-- The name of the method with its type and namespace. -/
def qualifiedName (m : Method) : String :=
  qualify m.namespaceName m.containingType.name m.name

/-- How a method stands in documents. -/
def form : Form Method where
  schema := .record "MethodDecl" true <|
    .field "name" .required .text <|
    .field "role" .omissible Role.form.schema <|
    .field "accessibility" .required Accessibility.form.schema <|
    .field "is_static" .omissible .flag <|
    .field "is_virtual" .omissible .flag <|
    .field "is_abstract" .omissible .flag <|
    .field "is_async" .omissible .flag <|
    .field "is_extension" .omissible .flag <|
    .field "completeness" .defaulted Completeness.form.schema <|
    .field "parameters" .defaulted (.list Parameter.form.schema) <|
    .field "return_type" .required .text <|
    .field "containing_type" .required ContainingType.form.schema <|
    .field "namespace" .defaulted .text <|
    .field "location" .omissible (.optional Location.form.schema) .none
  toRow m :=
    (m.name, Role.form.toRow m.role, Accessibility.form.toRow m.accessibility, m.isStatic,
      m.isVirtual, m.isAbstract, m.isAsync, m.isExtension,
      Completeness.form.toRow m.completeness, m.parameters.map Parameter.form.toRow,
      m.returnType, ContainingType.form.toRow m.containingType, m.namespaceName,
      m.location.map Location.form.toRow, ())
  ofRow := fun (name, role, accessibility, isStatic, isVirtual, isAbstract, isAsync, isExtension,
      completeness, parameters, returnType, containingType, namespaceName, location, ()) =>
    { name, isStatic, isVirtual, isAbstract, isAsync, isExtension, returnType, namespaceName
      role := Role.form.ofRow role
      accessibility := Accessibility.form.ofRow accessibility
      completeness := Completeness.form.ofRow completeness
      parameters := List.map Parameter.form.ofRow parameters
      containingType := ContainingType.form.ofRow containingType
      location := Option.map Location.form.ofRow location }
  ofRow_toRow m := by simp

end Method

end HandlerWiring
