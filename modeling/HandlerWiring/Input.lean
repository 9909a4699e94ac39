import HandlerWiring.Pass
import HandlerWiring.Session
import HandlerWiring.Setting.File

/-!
# Inputs of a command

A command reads a snapshot and, if it is given one, a settings file, and takes build-wide
properties from its arguments. The build-wide source of the settings is what the snapshot's options
say, overridden by the properties; the local source is what the options say, overridden by the
settings file.
-/

namespace HandlerWiring

/-- Why an input cannot be used. -/
inductive InputFault where
  /-- A file cannot be read. -/
  | unreadable (path : Path) (cause : FileFault)
  /-- The text of a file is no snapshot. -/
  | notASnapshot (cause : Json.Fault)
  /-- The text of a file is no settings file. What is wrong with it is not told. -/
  | notASettingsFile (path : Path)
  /-- A setting is a list or a table. -/
  | compoundSetting (key : String)
deriving DecidableEq, Repr

namespace InputFault

/-- A fault in words. What the reader of settings files says about a text that does not follow the
grammar is left out: `<toml>` stands in its place. -/
def message : InputFault → String
  | .unreadable path cause => "failed to read file '" ++ path.text ++ "': " ++ cause.message
  | .notASnapshot cause => "JSON parse error: " ++ cause.message
  | .notASettingsFile path => "invalid settings file '" ++ path.text ++ "': <toml>"
  | .compoundSetting key => "setting '" ++ key ++ "' must be a string, number, or boolean"

/-- A fault in words, and what caused it. -/
def chain (f : InputFault) : List String :=
  match f with
  | .unreadable _ cause => [f.message, cause.message]
  | _ => [f.message]

/-- The stable code of a kind of fault. -/
def code : InputFault → String
  | .unreadable .. => "CLI_001"
  | .notASnapshot .. => "CLI_002"
  | .notASettingsFile .. => "CLI_003"
  | .compoundSetting .. => "CLI_003"

end InputFault

/-! ## Snapshots -/

/-- A snapshot that was read from a file. -/
structure LoadedSnapshot where
  snapshot : Snapshot
  /-- The digest of the file. -/
  sourceHash : String
deriving DecidableEq

namespace LoadedSnapshot

/-- The snapshot in the text of a file. -/
def ofText (text : String) : Except InputFault LoadedSnapshot :=
  match Snapshot.form.parse text with
  | .ok snapshot => .ok ⟨snapshot, Digest.ofText text⟩
  | .error cause => .error (.notASnapshot cause)

/-- A snapshot was read. -/
def loaded (path : Path) (s : Snapshot) : Event :=
  ⟨.debug, "cqrsgen_cli::input", "loaded declaration snapshot",
    [("path", .shown path.text), ("types", .count s.types.length),
      ("methods", .count s.methods.length)]⟩

/-- Read a snapshot from a file. -/
def load (path : Path) : Session (Except InputFault LoadedSnapshot) :=
  .read path fun
    | .error cause => .done (.error (.unreadable path cause))
    | .ok text =>
      match ofText text with
      | .error fault => .done (.error fault)
      | .ok l => .report (loaded path l.snapshot) (.done (.ok l))

end LoadedSnapshot

/-! ## Settings -/

/-- Why the text of a property is refused. -/
inductive PropertyFault where
  | withoutEquals (text : String)
  | blankName (text : String)
deriving DecidableEq, Repr

/-- A fault in words. -/
def PropertyFault.message : PropertyFault → String
  | .withoutEquals text => "expected NAME=VALUE, got '" ++ text ++ "'"
  | .blankName text => "property name is empty in '" ++ text ++ "'"

/-- A build-wide property. -/
structure Property where
  name : String
  value : String
deriving DecidableEq, Repr

namespace Property

/-- The texts before and behind the first equals sign. -/
def cut? : List Char → Option (List Char × List Char)
  | [] => none
  | c :: cs =>
    if c = '=' then some ([], cs)
    else (cut? cs).map fun (before, behind) => (c :: before, behind)

/-- The property in a text: its name without blanks around it, and what stands behind the first
equals sign. -/
def parse (text : String) : Except PropertyFault Property :=
  match cut? text.toList with
  | none => .error (.withoutEquals text)
  | some (before, behind) =>
    let name := Text.trim before
    if name.isEmpty then .error (.blankName text)
    else .ok ⟨String.ofList name, String.ofList behind⟩

end Property

namespace Sources

/-- The build-wide source: options overridden by properties. -/
def buildOf (options : Dictionary) (properties : List Property) : Dictionary :=
  properties.foldl (fun d p => d.insertBuildProperty p.name p.value) options

/-- The two sources from options, properties and the settings of a file. -/
def combine (options : Dictionary) (properties : List Property) (settings : Dictionary) :
    Sources :=
  { build := buildOf options properties
    locals := options.insertAll settings.entries }

/-- The settings in the text of the file at a path. -/
def settingsOf (path : Path) (text : String) : Except InputFault Dictionary :=
  match SettingsFile.read text with
  | .ok settings => .ok settings
  | .error .malformed => .error (.notASettingsFile path)
  | .error (.compound key) => .error (.compoundSetting key)

/-- Read the settings from a file, none if there is no file to read. -/
def loadSettings : Option Path → Session (Except InputFault Dictionary)
  | none => .done (.ok .empty)
  | some path =>
    .read path fun
      | .error cause => .done (.error (.unreadable path cause))
      | .ok text => .done (settingsOf path text)

/-- The two sources, with the settings read from a file. -/
def assemble (options : Dictionary) (settings : Option Path) (properties : List Property) :
    Session (Except InputFault Sources) := do
  match ← loadSettings settings with
  | .error fault => return .error fault
  | .ok read => return .ok (combine options properties read)

end Sources

end HandlerWiring
