import HandlerWiring.Event
import HandlerWiring.Setting.Basic

/-!
# Resolving settings

Every setting starts from its default. A usable build-wide value replaces it, and a usable local
value replaces that. A value counts without the blanks around it; a blank value is as good as none,
and one that the setting does not accept is reported and passed over.
-/

namespace HandlerWiring

open Json

/-- Where a resolved value comes from. -/
inductive Origin where
  | default
  | buildWide
  | locally
deriving DecidableEq, Repr

namespace Origin

/-- The name of an origin. -/
def text : Origin → String
  | .default => "default"
  | .buildWide => "build-wide"
  | .locally => "local"

/-- The position of an origin among the three names. -/
def toIndex : Origin → Fin 3
  | .default => 0
  | .buildWide => 1
  | .locally => 2

/-- The origin at a position. -/
def ofIndex : Fin 3 → Origin
  | 0 => .default
  | 1 => .buildWide
  | 2 => .locally

/-- How an origin stands in documents. -/
def form : Form Origin where
  schema := .name ["default", "build_wide", "local"]
  toRow := toIndex
  ofRow := ofIndex
  ofRow_toRow o := by cases o <;> rfl

end Origin

/-- The value of a setting and where it comes from. -/
structure Resolved where
  setting : Setting
  value : String
  origin : Origin
deriving DecidableEq, Repr

/-- How a resolved value stands in documents. -/
def Resolved.form : Form Resolved where
  schema := .record "ResolvedValue" false <|
    .field "setting" .required Setting.form.schema <|
    .field "value" .required .text <|
    .field "origin" .required Origin.form.schema .none
  toRow r := (Setting.form.toRow r.setting, r.value, Origin.form.toRow r.origin, ())
  ofRow := fun (setting, value, origin, ()) =>
    ⟨Setting.form.ofRow setting, value, Origin.form.ofRow origin⟩
  ofRow_toRow r := by simp

/-- The two sources of settings. -/
structure Sources where
  build : Dictionary
  locals : Dictionary
deriving DecidableEq

namespace Setting

/-- A value was passed over. -/
def ignored (s : Setting) (key value : String) : Event :=
  ⟨.warn, "cqrsgen_decl::config",
    "ignoring unrecognized " ++ s.name ++ " value; keeping " ++ s.defaultValue,
    [("key", .quoted key), ("value", .quoted value)]⟩

/-- The value under a key without the blanks around it, unless it is blank. -/
def present? (source : Dictionary) (key : String) : Option String :=
  ((source.get? key).map Text.trimmed).filter (!·.isEmpty)

/-- The value under a key, if it is usable for the setting. -/
def usable (s : Setting) (source : Dictionary) (key : String) : Logged (Option String) :=
  match present? source key with
  | none => return none
  | some value =>
    if s.accepts value then return some value
    else do
      Logged.report (s.ignored key value)
      return none

/-- The value of a setting from two sources. -/
def resolve (s : Setting) (sources : Sources) : Logged Resolved := do
  let build ← s.usable sources.build s.buildKey
  let locally ← s.usable sources.locals s.localKey
  return match locally, build with
    | some value, _ => ⟨s, value, .locally⟩
    | none, some value => ⟨s, value, .buildWide⟩
    | none, none => ⟨s, s.defaultValue, .default⟩

/-- The values of some settings, one after the other. -/
def resolveEach (sources : Sources) : List Setting → Logged (List Resolved)
  | [] => return []
  | s :: rest => do
    let here ← s.resolve sources
    let others ← resolveEach sources rest
    return here :: others

/-- The values of all settings. -/
def resolveAll (sources : Sources) : Logged (List Resolved) := resolveEach sources all

end Setting

/-- The names of what is synthesized when no extension point is declared. -/
structure Names where
  accessModifier : String
  className : String
  namespaceName : String
deriving DecidableEq, Repr

namespace Names

/-- The names that no source sets. -/
def standard : Names :=
  { accessModifier := Setting.accessModifier.defaultValue
    className := Setting.className.defaultValue
    namespaceName := Setting.namespaceName.defaultValue }

/-- The names from two sources. -/
def resolve (sources : Sources) : Logged Names := do
  let accessModifier ← Setting.accessModifier.resolve sources
  let className ← Setting.className.resolve sources
  let namespaceName ← Setting.namespaceName.resolve sources
  return ⟨accessModifier.value, className.value, namespaceName.value⟩

/-- How the names stand in documents. -/
def form : Form Names where
  schema := .record "ResolvedConfig" false <|
    .field "access_modifier" .required .text <|
    .field "class_name" .required .text <|
    .field "namespace" .required .text .none
  toRow n := (n.accessModifier, n.className, n.namespaceName, ())
  ofRow := fun (accessModifier, className, namespaceName, ()) =>
    ⟨accessModifier, className, namespaceName⟩
  ofRow_toRow _ := rfl

end Names

/-- The strictness from two sources. -/
def Strictness.resolve (sources : Sources) : Logged Strictness := do
  let names ← Setting.parameterNames.resolve sources
  let static ← Setting.requireStatic.resolve sources
  return {
    requireStatic := Text.sameIgnoringCase static.value "true"
    parameterNames := (NameMatching.parse? names.value).getD .off }

end HandlerWiring
