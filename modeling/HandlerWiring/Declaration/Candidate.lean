import HandlerWiring.Declaration.Accessibility
import HandlerWiring.Declaration.Interface
import HandlerWiring.Declaration.Location

/-!
# Candidate types

A type declaration that may implement handlers. Only a concrete, closed reference type with at
least one interface is eligible.
-/

namespace HandlerWiring

open Json

/-- A type declaration. -/
structure Candidate where
  /-- The qualified name, as it appears in generated code. -/
  name : String
  accessibility : Accessibility
  isValueType : Bool
  isAbstract : Bool
  /-- Whether the type is an open generic definition. -/
  isUnboundGeneric : Bool
  /-- The implemented interfaces, in declaration order. -/
  interfaces : List Interface
  location : Option Location
deriving DecidableEq, Repr

namespace Candidate

/-- A public, concrete, closed class without interfaces. -/
def ofName (name : String) : Candidate :=
  { name, accessibility := .publicAccess, isValueType := false, isAbstract := false,
    isUnboundGeneric := false, interfaces := [], location := none }

/-- The type with one more interface behind those it has. -/
def implementing (c : Candidate) (i : Interface) : Candidate :=
  { c with interfaces := c.interfaces ++ [i] }

/-- Whether the interfaces of the type are looked at. -/
def isEligible (c : Candidate) : Bool :=
  !c.isValueType && !c.isAbstract && !c.isUnboundGeneric && !c.interfaces.isEmpty

/-- How a type stands in documents. -/
def form : Form Candidate where
  schema := .record "TypeCandidate" true <|
    .field "name" .required .text <|
    .field "accessibility" .required Accessibility.form.schema <|
    .field "is_value_type" .omissible .flag <|
    .field "is_abstract" .omissible .flag <|
    .field "is_unbound_generic" .omissible .flag <|
    .field "interfaces" .omissible (.list Interface.form.schema) <|
    .field "location" .omissible (.optional Location.form.schema) .none
  toRow c :=
    (c.name, Accessibility.form.toRow c.accessibility, c.isValueType, c.isAbstract,
      c.isUnboundGeneric, c.interfaces.map Interface.form.toRow,
      c.location.map Location.form.toRow, ())
  ofRow := fun (name, accessibility, isValueType, isAbstract, isUnboundGeneric, interfaces,
      location, ()) =>
    { name
      accessibility := Accessibility.form.ofRow accessibility
      isValueType, isAbstract, isUnboundGeneric
      interfaces := List.map Interface.form.ofRow interfaces
      location := Option.map Location.form.ofRow location }
  ofRow_toRow c := by simp

end Candidate

end HandlerWiring
