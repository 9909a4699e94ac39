import HandlerWiring.Digest.Blake3
import HandlerWiring.Unit.Render

/-!
# Generated units

A pass produces at most one unit. Without registrations there is none. Otherwise the accepted
extension points are completed, all of them in one unit; only if there is none, a method is
synthesized from the settings. The unit is named after its first method.
-/

namespace HandlerWiring

open Json

/-- How the method of a unit came to be. -/
inductive UnitKind where
  /-- Declared by the user and completed. -/
  | completion
  /-- Declared by the unit itself. -/
  | synthesized
deriving DecidableEq, Repr

namespace UnitKind

/-- The name of a kind. -/
def text : UnitKind → String
  | .completion => "completion"
  | .synthesized => "synthesized"

/-- The position of a kind among the two names. -/
def toIndex : UnitKind → Fin 2
  | .completion => 0
  | .synthesized => 1

/-- The kind at a position. -/
def ofIndex : Fin 2 → UnitKind
  | 0 => .completion
  | 1 => .synthesized

/-- How a kind stands in documents. -/
def form : Form UnitKind where
  schema := .name ["completion", "synthesized"]
  toRow := toIndex
  ofRow := ofIndex
  ofRow_toRow k := by cases k <;> rfl

end UnitKind

/-- A generated source file. -/
structure GeneratedUnit where
  /-- The name of the file. -/
  hintName : String
  kind : UnitKind
  source : String
deriving DecidableEq, Repr

/-- The file name of a unit: namespace, class and method, and the ending of generated code. -/
def unitName (namespaceName className methodName : String) : String :=
  qualify namespaceName className methodName ++ ".g.cs"

namespace GeneratedUnit

/-- The name of a synthesized method. -/
def synthesizedMethodName : String := "AddGenerated"

/-- The digest of the source. -/
def sourceHash (u : GeneratedUnit) : String := Digest.ofText u.source

/-- The unit of a pass. -/
def emit? (registrations : List Registration) (points : List ExtensionPoint) (names : Names) :
    Option GeneratedUnit :=
  if registrations.isEmpty then none
  else match points with
    | first :: _ => some
      { hintName := unitName first.namespaceName first.className first.methodName
        kind := .completion
        source := Unit.completion points registrations }
    | [] => some
      { hintName := unitName names.namespaceName names.className synthesizedMethodName
        kind := .synthesized
        source := Unit.synthesized names synthesizedMethodName registrations }

/-- How a unit stands in documents. -/
def form : Form GeneratedUnit where
  schema := .record "OutputUnit" false <|
    .field "hint_name" .required .text <|
    .field "kind" .required UnitKind.form.schema <|
    .field "source" .required .text .none
  toRow u := (u.hintName, UnitKind.form.toRow u.kind, u.source, ())
  ofRow := fun (hintName, kind, source, ()) => ⟨hintName, UnitKind.form.ofRow kind, source⟩
  ofRow_toRow u := by simp

end GeneratedUnit

end HandlerWiring
