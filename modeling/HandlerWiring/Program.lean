import HandlerWiring.CommandLine.Reader
import HandlerWiring.LogFilter

/-!
# The program

Reads its command line, runs the command and tells how it ended: zero if all went well, one if the
command failed, two if the command line was at fault. Events that the log filter shows become lines
where complaints go, and so does the reason of a failure.
-/

namespace HandlerWiring.Program

open CommandLine

/-- The version of the program and of its commands. -/
def version : String := "0.1.0"

/-- What the program is, in a line. -/
def description : String :=
  "cqrsgen command-line interface for CQRS handler registration codegen"

/-- The answer to who asks for the version. -/
def versionLine (verb : Option Verb) : String :=
  programName ++ (verb.map fun v => "-" ++ v.name).getD "" ++ " " ++ version

/-- The session of a line that has no command to run. -/
def interrupted : Interruption → Session Nat
  | .fault f => do
    Session.complainLine ("error: " ++ f.message)
    return 2
  | .help => do
    Session.printLine description
    return 0
  | .version verb => do
    Session.printLine (versionLine verb)
    return 0
  | .nothing => do
    Session.complainLine description
    return 2

/-- The session of a command whose events go through a filter. -/
def invoked (filter : LogFilter) (i : Invocation) : Session Nat := do
  match ← (i.command.session i.output).loggingTo filter.line? with
  | .ok status => return status.code
  | .error f => do
    Session.complainLine ("error: " ++ f.message)
    return 1

/-- Complain of each line. -/
def complainAll : List String → Session Unit
  | [] => .done ()
  | line :: rest => do
    Session.complainLine line
    complainAll rest

/-- The session of a command line, with the directives of the log filter. -/
def session (words : List String) (directives : String) : Session Nat :=
  match CommandLine.read words with
  | .error i => interrupted i
  | .ok i => do
    complainAll (LogFilter.complaints directives)
    invoked (.ofText (.standard i.verbose) directives) i

end HandlerWiring.Program
