import HandlerWiring.Command.Basic

/-!
# The command `scan`

Lists the registrations that a snapshot has.
-/

namespace HandlerWiring.Command

open Text

/-- The line about a registration. -/
def registrationLine (colours : Bool) (r : Registration) : String :=
  "  " ++ styled colours .green "+" ++ " " ++ r.serviceType ++ " " ++
    styled colours .dimmed "->" ++ " " ++ r.implementation

/-- The lines about the registrations among so many types. -/
def registrationLines (colours : Bool) (types : Nat) (rs : List Registration) : List String :=
  if rs.isEmpty then
    ["\n" ++ styled colours .boldYellow "EMPTY" ++ " No handler implementations among " ++
      toString types ++ " type(s)"]
  else
    ("\n" ++ styled colours .bold "Handlers:") :: rs.map (registrationLine colours) ++
      ["\n" ++ styled colours .boldGreen "FOUND" ++ " " ++ toString rs.length ++
        " registration(s) from " ++ toString types ++ " type(s)"]

/-- The command with lines for people. -/
def scanProse (colours : Bool) (decls : Path) : Session (Except Failure ExitStatus) := do
  Session.printLine (styled colours .boldCyan "Scanning:" ++ " " ++ decls.text)
  match ← LoadedSnapshot.load decls with
  | .error fault => return .error (.loading decls fault)
  | .ok loaded =>
    Session.printLine (sourceLine colours loaded.sourceHash)
    let registrations ← Session.ofLogged (Registration.scan loaded.snapshot.types)
    Session.printLines
      (registrationLines colours loaded.snapshot.types.length registrations)
    return .ok .success

/-- The document about some registrations. -/
def scanDocument (sourceHash : String) (rs : List Registration) : ScanDocument :=
  { success := true
    errors := []
    registrations := rs.map RegistrationEntry.ofRegistration
    sourceHash := some sourceHash }

/-- The command with a document for machines. -/
def scanJson (decls : Path) : Session (Except Failure ExitStatus) := do
  match ← LoadedSnapshot.load decls with
  | .error fault =>
    printDocument ScanDocument.form (.failure (fault.entry decls.text))
    return .ok .failure
  | .ok loaded =>
    let registrations ← Session.ofLogged (Registration.scan loaded.snapshot.types)
    printDocument ScanDocument.form (scanDocument loaded.sourceHash registrations)
    return .ok .success

end HandlerWiring.Command
