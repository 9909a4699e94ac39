import HandlerWiring.Dictionary
import HandlerWiring.ExtensionPoint.Strictness
import HandlerWiring.Text.Alphabetic
import HandlerWiring.Text.Basic

/-!
# Settings

The five settings of the generator. Each has a default, a key in the local source and a key in the
build-wide source, and says which values it accepts. Names end up in generated code and in the
name of a file, so they have to be plain identifiers.
-/

namespace HandlerWiring

open Json

/-- What the host puts before the name of a build-wide property. -/
def buildStem : String := "build_property."

/-- What every key of a setting starts with. -/
def settingStem : String := "CQRSToolkit_DIGen_"

/-- The key of a build-wide property; its name may already start as such keys do. -/
def buildPropertyKey (name : String) : String :=
  if buildStem.toList.isPrefixOf name.toList then name else buildStem ++ name

/-- Write a build-wide property. -/
def Dictionary.insertBuildProperty (name value : String) (d : Dictionary) : Dictionary :=
  d.insert (buildPropertyKey name) value

/-- A setting of the generator. -/
inductive Setting where
  /-- The access modifier of the synthesized class and method. -/
  | accessModifier
  /-- The name of the synthesized class. -/
  | className
  /-- The namespace of the synthesized class. -/
  | namespaceName
  /-- How the parameter names of extension points are compared. -/
  | parameterNames
  /-- Whether extension points have to be static. -/
  | requireStatic
deriving DecidableEq, Repr

/-- Whether a character may start an identifier. -/
def startsIdentifier (c : Char) : Bool := Text.isAlphabetic c || c == '_'

/-- Whether a character may stand behind the first of an identifier. -/
def continuesIdentifier (c : Char) : Bool := Text.isAlphanumeric c || c == '_'

/-- A letter or underscore, then letters, numbers and underscores. -/
def isIdentifier : List Char → Bool
  | [] => false
  | c :: cs => startsIdentifier c && cs.all continuesIdentifier

namespace Setting

/-- The settings, in the order in which they are listed. -/
def all : List Setting :=
  [.accessModifier, .className, .namespaceName, .parameterNames, .requireStatic]

/-- The name of a setting. -/
def name : Setting → String
  | .accessModifier => "AccessModifier"
  | .className => "ClassName"
  | .namespaceName => "Namespace"
  | .parameterNames => "ParameterNames"
  | .requireStatic => "RequireStatic"

/-- The value of a setting that no source sets. -/
def defaultValue : Setting → String
  | .accessModifier => "internal"
  | .className => "CQRSServiceExtensions"
  | .namespaceName => "CQRSToolkit.DependencyInjection"
  | .parameterNames => "off"
  | .requireStatic => "true"

/-- The key in the local source. -/
def localKey (s : Setting) : String := settingStem ++ s.name

/-- The key in the build-wide source. -/
def buildKey (s : Setting) : String := buildStem ++ settingStem ++ s.name

/-- Whether a value is usable for a setting. -/
def accepts : Setting → String → Bool
  | .accessModifier, value => value == "public" || value == "internal"
  | .className, value => isIdentifier value.toList
  | .namespaceName, value => (Text.piecesAt '.' value.toList).all isIdentifier
  | .parameterNames, value => (NameMatching.parse? value).isSome
  | .requireStatic, value =>
    Text.sameIgnoringCase value "true" || Text.sameIgnoringCase value "false"

/-- The position of a setting among the five names. -/
def toIndex : Setting → Fin 5
  | .accessModifier => 0
  | .className => 1
  | .namespaceName => 2
  | .parameterNames => 3
  | .requireStatic => 4

/-- The setting at a position. -/
def ofIndex : Fin 5 → Setting
  | 0 => .accessModifier
  | 1 => .className
  | 2 => .namespaceName
  | 3 => .parameterNames
  | 4 => .requireStatic

/-- How a setting stands in documents. -/
def form : Form Setting where
  schema := .name ["access_modifier", "class_name", "namespace", "parameter_names", "require_static"]
  toRow := toIndex
  ofRow := ofIndex
  ofRow_toRow s := by cases s <;> rfl

end Setting

end HandlerWiring
