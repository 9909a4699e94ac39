import HandlerWiring.Command.Basic

/-!
# The command `config`

Lists the settings with their values and where these come from. A snapshot is optional; without one
both sources start empty.
-/

namespace HandlerWiring.Command

open Text

/-- The options of a snapshot, none if there is no snapshot to load. A fault comes with the path of
the input at fault. -/
def loadOptions : Option Path → Session (Except (InputFault × String) Dictionary)
  | none => .done (.ok .empty)
  | some path => do
    match ← LoadedSnapshot.load path with
    | .error fault => return .error (fault, path.text)
    | .ok loaded => return .ok loaded.snapshot.options

/-- The values of all settings. A fault comes with the path of the input at fault. -/
def resolvedSettings (decls settings : Option Path) (properties : List Property) :
    Session (Except (InputFault × String) (List Resolved)) := do
  match ← loadOptions decls with
  | .error fault => return .error fault
  | .ok options =>
    match ← Sources.assemble options settings properties with
    | .error fault => return .error (fault, fileName settings)
    | .ok sources =>
      let resolved ← Session.ofLogged (Setting.resolveAll sources)
      return .ok resolved

/-- An origin in the colour of its kind. -/
def originText (colours : Bool) (o : Origin) : String :=
  match o with
  | .default => styled colours .dimmed o.text
  | .buildWide => styled colours .blue o.text
  | .locally => styled colours .green o.text

/-- The line about a setting. -/
def settingLine (colours : Bool) (r : Resolved) : String :=
  "  " ++ leftAligned 16 r.setting.name ++ " " ++ leftAligned 40 r.value ++ " [" ++
    originText colours r.origin ++ "]"

/-- The command with lines for people. -/
def configProse (colours : Bool) (decls settings : Option Path) (properties : List Property) :
    Session (Except Failure ExitStatus) := do
  match ← resolvedSettings decls settings properties with
  | .error (fault, _) => return .error (.resolving fault)
  | .ok resolved =>
    Session.printLine (styled colours .boldCyan "Settings:")
    Session.printLines (resolved.map (settingLine colours))
    return .ok .success

/-- The document about the settings. -/
def configDocument (resolved : List Resolved) : ConfigDocument :=
  { success := true
    errors := []
    settings := resolved.map SettingEntry.ofResolved }

/-- The command with a document for machines. -/
def configJson (decls settings : Option Path) (properties : List Property) :
    Session (Except Failure ExitStatus) := do
  match ← resolvedSettings decls settings properties with
  | .error (fault, file) =>
    printDocument ConfigDocument.form (.failure (fault.entry file))
    return .ok .failure
  | .ok resolved =>
    printDocument ConfigDocument.form (configDocument resolved)
    return .ok .success

end HandlerWiring.Command
