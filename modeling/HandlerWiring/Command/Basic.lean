import HandlerWiring.Command.Document
import HandlerWiring.Input
import HandlerWiring.Text.Styled

/-!
# Commands

The four commands, what they are given, how they print and how they end. A command prints lines
for people or one document for machines. In the first case a failure ends the command and is told
as a chain of reasons; in the second the document tells it.
-/

namespace HandlerWiring

/-- A command with its arguments. -/
inductive Command where
  /-- Write the unit of a snapshot into a directory. -/
  | generate (decls : Path) (outDir : Path) (settings : Option Path) (properties : List Property)
      (denyWarnings : Bool)
  /-- Check the extension points of a snapshot. -/
  | validate (decls : Path) (settings : Option Path) (properties : List Property)
      (denyWarnings : Bool)
  /-- List the registrations of a snapshot. -/
  | scan (decls : Path)
  /-- List the settings. -/
  | config (decls : Option Path) (settings : Option Path) (properties : List Property)
deriving DecidableEq, Repr

/-- How a command that got through ends. -/
inductive ExitStatus where
  | success
  | failure
deriving DecidableEq, Repr

namespace ExitStatus

/-- The number of a status. -/
def code : ExitStatus → Nat
  | .success => 0
  | .failure => 1

/-- The status of a run with these diagnostics: it fails if one of them is an error. -/
def ofDiagnostics (ds : List Diagnostic) : ExitStatus :=
  if ds.any (·.severity == .error) then .failure else .success

end ExitStatus

/-- Why a unit could not be written. -/
inductive WriteFault where
  /-- The name would lead out of the directory. -/
  | outside (name : String)
  | directory (path : Path) (cause : FileFault)
  | file (path : Path) (cause : FileFault)
deriving DecidableEq, Repr

/-- A fault in words, and what caused it. -/
def WriteFault.chain : WriteFault → List String
  | .outside name => ["Refusing to write unit outside the output directory: " ++ name]
  | .directory path cause =>
    ["Failed to create output directory: " ++ path.text, cause.message]
  | .file path cause => ["Failed to write generated unit: " ++ path.text, cause.message]

/-- Why a command did not get through. -/
inductive Failure where
  /-- The snapshot could not be loaded. -/
  | loading (path : Path) (cause : InputFault)
  /-- The settings could not be put together. -/
  | assembling (cause : InputFault)
  /-- An input for the validation of a snapshot could not be used. -/
  | validating (path : Path) (cause : InputFault)
  /-- An input for the list of settings could not be used. -/
  | resolving (cause : InputFault)
  /-- The unit could not be written. -/
  | writing (cause : WriteFault)
deriving DecidableEq, Repr

namespace Failure

/-- The chain of reasons, from the outermost on. -/
def chain : Failure → List String
  | .loading path cause => ("Failed to load declarations: " ++ path.text) :: cause.chain
  | .assembling cause => cause.chain
  | .validating path cause => ("Failed to validate declarations: " ++ path.text) :: cause.chain
  | .resolving cause => "Failed to resolve settings" :: cause.chain
  | .writing cause => cause.chain

/-- The reasons in one line. -/
def message (f : Failure) : String := String.intercalate ": " f.chain

end Failure

/-- The entry of an input that failed, in the documents. -/
def InputFault.entry (f : InputFault) (file : String) : ErrorEntry :=
  ⟨f.code, f.message, some file⟩

/-- The entry of a unit that could not be written, in the documents. -/
def WriteFault.entry (f : WriteFault) : ErrorEntry :=
  ⟨"CLI_004", String.intercalate ": " f.chain, none⟩

namespace Command

open Text

/-- Print a document. -/
def printDocument (form : Json.Form α) (document : α) : Session Unit :=
  Session.printLine (form.pretty document)

/-- The line that tells what a snapshot was read from: the start of its digest. -/
def sourceLine (colours : Bool) (sourceHash : String) : String :=
  styled colours .dimmed "Source:" ++ " json (" ++ String.ofList (sourceHash.toList.take 16) ++ ")"

/-- The diagnostics as they are taken: as errors, if warnings are denied. -/
def taken (denyWarnings : Bool) (ds : List Diagnostic) : List Diagnostic :=
  if denyWarnings then ds.map Diagnostic.escalate else ds

/-- The lines about one diagnostic. -/
def diagnosticLines (colours : Bool) (d : Diagnostic) : List String :=
  let mark := match d.severity with
    | .error => styled colours .red "x"
    | .warning => styled colours .yellow "!"
  let location := (d.location.map fun l => " at " ++ l.text).getD ""
  ["  " ++ mark ++ " [" ++ d.code.text ++ "] " ++ d.method ++ styled colours .dimmed location,
    "      " ++ d.message]

/-- The lines about some diagnostics; none about none. -/
def diagnosticsLines (colours : Bool) (ds : List Diagnostic) : List String :=
  if ds.isEmpty then []
  else ("\n" ++ styled colours .bold "Diagnostics:") :: ds.flatMap (diagnosticLines colours)

/-- The path of an input as documents name it, empty if there is none. -/
def fileName (path : Option Path) : String := (path.map (·.text)).getD ""

end Command

end HandlerWiring
