import HandlerWiring.Command.Basic

/-!
# The command `generate`

Runs a pass over a snapshot and writes its unit, if it has one, into a directory that is made if it
is missing. The name of a unit comes from the snapshot, so a name with a slash of either kind is
refused: a unit is written into the directory or not at all.
-/

namespace HandlerWiring

open Text

/-- Whether a unit with this name would be written into another directory. -/
def leadsOutside (name : String) : Bool :=
  name.toList.any fun c => c == '/' || c == '\\'

/-- Write a unit into a directory. The result is where it was written. -/
def GeneratedUnit.writeInto (u : GeneratedUnit) (directory : Path) :
    Session (Except WriteFault Path) :=
  if leadsOutside u.hintName then .done (.error (.outside u.hintName))
  else
    .makeDirectories directory fun
      | .error cause => .done (.error (.directory directory cause))
      | .ok () =>
        let path := directory.join u.hintName
        .write path u.source fun
          | .error cause => .done (.error (.file path cause))
          | .ok () => .done (.ok path)

/-- Write the unit of a pass, if it has one. -/
def Outcome.writeInto (o : Outcome) (directory : Path) :
    Session (Except WriteFault (Option Path)) :=
  match o.unit with
  | none => .done (.ok none)
  | some u => do
    match ← u.writeInto directory with
    | .error fault => return .error fault
    | .ok path => return .ok (some path)

namespace Command

/-- The lines about what a pass found. -/
def foundLines (colours : Bool) (sourceHash : String) (o : Outcome) (ds : List Diagnostic) :
    List String :=
  [sourceLine colours sourceHash,
    styled colours .dimmed "Found:" ++ " " ++ toString o.registrations.length ++
      " handler registration(s)"] ++ diagnosticsLines colours ds

/-- How long a run took. -/
def durationText (milliseconds : Nat) : String := "(" ++ toString milliseconds ++ "ms)"

/-- The line about the unit of a pass and where it was written. -/
def unitLine (colours : Bool) (milliseconds : Nat) (o : Outcome) (path : Option Path) : String :=
  match o.unit, path with
  | some u, some path =>
    "\n" ++ styled colours .boldGreen "SUCCESS" ++ " Wrote " ++ u.kind.text ++ " unit to " ++
      path.text ++ " " ++ durationText milliseconds
  | _, _ =>
    "\n" ++ styled colours .boldYellow "SKIPPED" ++
      " No handler implementations found; nothing to generate " ++ durationText milliseconds

/-- The line about rejected extension points, if they count as errors. -/
def rejectedLines (colours : Bool) (ds : List Diagnostic) : List String :=
  match ExitStatus.ofDiagnostics ds with
  | .success => []
  | .failure =>
    [styled colours .boldRed "FAILED" ++ " " ++ toString ds.length ++
      " extension point(s) rejected"]

/-- The command with lines for people. -/
def generateProse (colours : Bool) (decls outDir : Path) (settings : Option Path)
    (properties : List Property) (denyWarnings : Bool) : Session (Except Failure ExitStatus) := do
  Session.printLine (styled colours .boldCyan "Generating:" ++ " " ++ decls.text)
  match ← LoadedSnapshot.load decls with
  | .error fault => return .error (.loading decls fault)
  | .ok loaded =>
    match ← Sources.assemble loaded.snapshot.options settings properties with
    | .error fault => return .error (.assembling fault)
    | .ok sources =>
      let outcome ← Session.ofLogged (loaded.snapshot.generate sources)
      let diagnostics := taken denyWarnings outcome.diagnostics
      Session.printLines (foundLines colours loaded.sourceHash outcome diagnostics)
      let milliseconds ← Session.elapsed .done
      match ← outcome.writeInto outDir with
      | .error fault => return .error (.writing fault)
      | .ok path =>
        Session.printLine (unitLine colours milliseconds outcome path)
        Session.printLines (rejectedLines colours diagnostics)
        return .ok (.ofDiagnostics diagnostics)

/-- The document about a pass whose unit was written to a path. -/
def generateDocument (sourceHash : String) (o : Outcome) (path : Option Path)
    (ds : List Diagnostic) : GenerateDocument :=
  { success := ExitStatus.ofDiagnostics ds == .success
    errors := []
    diagnostics := ds.map DiagnosticEntry.ofDiagnostic
    registrations := o.registrations.map RegistrationEntry.ofRegistration
    unit := match o.unit, path with
      | some u, some path => some (UnitEntry.ofUnit u path.text)
      | _, _ => none
    sourceHash := some sourceHash }

/-- Print the document of a run that failed. -/
def failGenerate (error : ErrorEntry) (sourceHash : Option String) :
    Session (Except Failure ExitStatus) := do
  printDocument GenerateDocument.form (.failure error sourceHash)
  return .ok .failure

/-- The command with a document for machines. -/
def generateJson (decls outDir : Path) (settings : Option Path) (properties : List Property)
    (denyWarnings : Bool) : Session (Except Failure ExitStatus) := do
  match ← LoadedSnapshot.load decls with
  | .error fault => failGenerate (fault.entry decls.text) none
  | .ok loaded =>
    match ← Sources.assemble loaded.snapshot.options settings properties with
    | .error fault => failGenerate (fault.entry (fileName settings)) (some loaded.sourceHash)
    | .ok sources =>
      let outcome ← Session.ofLogged (loaded.snapshot.generate sources)
      match ← outcome.writeInto outDir with
      | .error fault => failGenerate fault.entry (some loaded.sourceHash)
      | .ok path =>
        let diagnostics := taken denyWarnings outcome.diagnostics
        printDocument GenerateDocument.form
          (generateDocument loaded.sourceHash outcome path diagnostics)
        return .ok (.ofDiagnostics diagnostics)

end Command

end HandlerWiring
