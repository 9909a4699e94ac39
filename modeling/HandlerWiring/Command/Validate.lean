import HandlerWiring.Command.Basic

/-!
# The command `validate`

Checks the marked methods of a snapshot and reports on them, whether or not the snapshot has
anything to register.
-/

namespace HandlerWiring.Command

open Text

/-- The rules that a validation goes by. -/
def strictnessChosen (s : Strictness) : Event :=
  ⟨.debug, "cqrsgen_cli::commands::validate", "validator options",
    [("require_static", .flag s.requireStatic), ("parameter_names", .shown s.parameterNames.text)]⟩

/-- Load a snapshot and check its marked methods. The result has the digest of the file too. -/
def checkedSnapshot (decls : Path) (settings : Option Path) (properties : List Property) :
    Session (Except InputFault (Report × String)) := do
  match ← LoadedSnapshot.load decls with
  | .error fault => return .error fault
  | .ok loaded =>
    match ← Sources.assemble loaded.snapshot.options settings properties with
    | .error fault => return .error fault
    | .ok sources =>
      let strictness ← Session.ofLogged (Strictness.resolve sources)
      Session.reportAll [strictnessChosen strictness]
      let report ← Session.ofLogged (Report.ofMethods strictness loaded.snapshot.methods)
      return .ok (report, loaded.sourceHash)

/-- The line about an accepted extension point. -/
def pointLine (colours : Bool) (p : ExtensionPoint) : String :=
  "  " ++ styled colours .green "+" ++ " " ++ p.qualifiedName ++ "(" ++ p.servicesParameter ++
    ", " ++ p.lifetimeParameter ++ ")"

/-- The lines about accepted extension points; none about none. -/
def pointsLines (colours : Bool) (ps : List ExtensionPoint) : List String :=
  if ps.isEmpty then []
  else ("\n" ++ styled colours .bold "Extension points:") :: ps.map (pointLine colours)

/-- The line that sums a report up. -/
def verdictLine (colours : Bool) (r : Report) (ds : List Diagnostic) : String :=
  if ds.isEmpty then
    "\n" ++ styled colours .boldGreen "SUCCESS" ++ " " ++ toString r.points.length ++
      " extension point(s) valid"
  else
    let word := match ExitStatus.ofDiagnostics ds with
      | .failure => styled colours .boldRed "FAILED"
      | .success => styled colours .boldYellow "WARNING"
    "\n" ++ word ++ " " ++ toString ds.length ++ " extension point(s) rejected"

/-- The lines about a report. -/
def reportLines (colours : Bool) (r : Report) (ds : List Diagnostic) : List String :=
  if r.points.isEmpty && r.diagnostics.isEmpty then
    ["\n" ++ styled colours .boldBlue "INFO" ++
      " No extension points declared; a method would be synthesized"]
  else pointsLines colours r.points ++ diagnosticsLines colours ds ++ [verdictLine colours r ds]

/-- The command with lines for people. -/
def validateProse (colours : Bool) (decls : Path) (settings : Option Path)
    (properties : List Property) (denyWarnings : Bool) : Session (Except Failure ExitStatus) := do
  Session.printLine (styled colours .boldCyan "Validating:" ++ " " ++ decls.text)
  match ← checkedSnapshot decls settings properties with
  | .error fault => return .error (.validating decls fault)
  | .ok (report, sourceHash) =>
    let diagnostics := taken denyWarnings report.diagnostics
    Session.printLine (sourceLine colours sourceHash)
    Session.printLines (reportLines colours report diagnostics)
    return .ok (.ofDiagnostics diagnostics)

/-- The file that the document names for a fault: the settings file if its text is at fault, else
the snapshot. -/
def blamedFile (decls : Path) (settings : Option Path) : InputFault → String
  | .notASettingsFile _ => fileName settings
  | .compoundSetting _ => fileName settings
  | .unreadable .. => decls.text
  | .notASnapshot _ => decls.text

/-- The document about a report. -/
def validateDocument (sourceHash : String) (r : Report) (ds : List Diagnostic) :
    ValidateDocument :=
  { success := ExitStatus.ofDiagnostics ds == .success
    errors := []
    diagnostics := ds.map DiagnosticEntry.ofDiagnostic
    points := r.points
    sourceHash := some sourceHash }

/-- The command with a document for machines. -/
def validateJson (decls : Path) (settings : Option Path) (properties : List Property)
    (denyWarnings : Bool) : Session (Except Failure ExitStatus) := do
  match ← checkedSnapshot decls settings properties with
  | .error fault =>
    printDocument ValidateDocument.form (.failure (fault.entry (blamedFile decls settings fault)))
    return .ok .failure
  | .ok (report, sourceHash) =>
    let diagnostics := taken denyWarnings report.diagnostics
    printDocument ValidateDocument.form (validateDocument sourceHash report diagnostics)
    return .ok (.ofDiagnostics diagnostics)

end HandlerWiring.Command
