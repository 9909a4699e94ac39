import HandlerWiring.Json.Form
import HandlerWiring.Text.Basic

/-!
# Strictness

How strictly extension points are checked: whether they have to be static, and how their parameter
names are compared with the expected ones.
-/

namespace HandlerWiring

open Json

/-- How a parameter name is compared with the expected one. -/
inductive NameMatching where
  /-- Every name is taken. -/
  | off
  | exact
  /-- The case of ASCII letters does not matter. -/
  | ignoreCase
deriving DecidableEq, Repr

namespace NameMatching

/-- The name of a level. -/
def text : NameMatching → String
  | .off => "off"
  | .exact => "exact"
  | .ignoreCase => "ignore_case"

/-- Whether a name is taken for the expected one. -/
def accepts : NameMatching → (actual expected : String) → Bool
  | .off, _, _ => true
  | .exact, actual, expected => actual == expected
  | .ignoreCase, actual, expected => Text.sameIgnoringCase actual expected

/-- The level that a text names, blanks around it and ASCII case aside. -/
def parse? (s : String) : Option NameMatching :=
  match Text.lowered (Text.trimmed s) with
  | "off" => some .off
  | "exact" => some .exact
  | "ignore_case" => some .ignoreCase
  | "ignorecase" => some .ignoreCase
  | _ => none

/-- The position of a level among the three names. -/
def toIndex : NameMatching → Fin 3
  | .off => 0
  | .exact => 1
  | .ignoreCase => 2

/-- The level at a position. -/
def ofIndex : Fin 3 → NameMatching
  | 0 => .off
  | 1 => .exact
  | 2 => .ignoreCase

/-- How a level stands in documents. -/
def form : Form NameMatching where
  schema := .name ["off", "exact", "ignore_case"]
  toRow := toIndex
  ofRow := ofIndex
  ofRow_toRow m := by cases m <;> rfl

end NameMatching

/-- What the rules for extension points insist on. -/
structure Strictness where
  requireStatic : Bool
  parameterNames : NameMatching
deriving DecidableEq, Repr

namespace Strictness

/-- Static methods, parameters of any name. -/
def standard : Strictness := ⟨true, .off⟩

/-- How a strictness stands in documents. -/
def form : Form Strictness where
  schema := .record "ValidatorOptions" false <|
    .field "require_static" .required .flag <|
    .field "parameter_names" .required NameMatching.form.schema .none
  toRow s := (s.requireStatic, NameMatching.form.toRow s.parameterNames, ())
  ofRow := fun (requireStatic, parameterNames, ()) =>
    ⟨requireStatic, NameMatching.form.ofRow parameterNames⟩
  ofRow_toRow s := by simp

end Strictness

end HandlerWiring
