import HandlerWiring.Json.Form
import HandlerWiring.Text.Basic

/-!
# Closed interfaces

An interface that a type implements: a generic definition and the type arguments that close it.
Hosts export a definition bare, with its arity behind a grave accent, or with its parameters in
angle brackets, and may qualify it by the global alias; all of these name the same definition.
-/

namespace HandlerWiring

open Json

/-- A name without blanks around it and without one global alias qualifier at its start. -/
def withoutAlias (name : List Char) : List Char :=
  let name := Text.trim name
  if "global::".toList.isPrefixOf name then name.drop "global::".toList.length else name

/-- Whether a character ends the bare name of a generic definition. -/
def endsDefinition (c : Char) : Bool := c == '<' || c == '`'

/-- A generic definition closed by type arguments. -/
structure Interface where
  /-- The qualified name of the generic definition, as exported. -/
  definition : String
  /-- The type arguments, in declaration order. -/
  typeArguments : List String
deriving DecidableEq, Repr

namespace Interface

/-- The bare name of the definition. -/
def definitionName (i : Interface) : String :=
  String.ofList
    (Text.trim ((withoutAlias i.definition.toList).takeWhile fun c => !endsDefinition c))

/-- The number of type arguments. -/
def arity (i : Interface) : Nat := i.typeArguments.length

/-- The interface as written in generated code. -/
def text (i : Interface) : String :=
  i.definitionName ++
    if i.typeArguments.isEmpty then "" else "<" ++ String.intercalate ", " i.typeArguments ++ ">"

/-- How an interface stands in documents. -/
def form : Form Interface where
  schema := .record "ConstructedInterface" true <|
    .field "definition" .required .text <|
    .field "type_arguments" .omissible (.list .text) .none
  toRow i := (i.definition, i.typeArguments, ())
  ofRow := fun (definition, typeArguments, ()) => ⟨definition, typeArguments⟩
  ofRow_toRow _ := rfl

end Interface

end HandlerWiring
