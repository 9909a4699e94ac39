import HandlerWiring.Program

/-!
# Running the program on a machine

Answers the requests of the program's session with the files, the streams and the clock of the
machine.
-/

namespace HandlerWiring

/-- The fault that the machine reports. -/
def FileFault.ofReport : IO.Error → FileFault
  | .noFileOrDirectory _ _ _ => .notFound
  | .noSuchThing _ _ _ => .notFound
  | .alreadyExists _ code _ => if code = 17 then .alreadyExists else .notADirectory
  | .inappropriateType _ code _ => if code = 20 then .notADirectory else .isADirectory
  | .invalidArgument _ code _ => if code = 36 then .nameTooLong else .nulInName
  | e => .other (toString e)

/-- Read a file of the machine. -/
def readFile (path : Path) : IO (Except FileFault String) := do
  match ← (IO.FS.readBinFile path.text).toBaseIO with
  | .error e => return .error (.ofReport e)
  | .ok bytes =>
    match String.fromUTF8? bytes with
    | some content => return .ok content
    | none => return .error .notText

/-- The result of an action that may fail. -/
def attempted (action : IO Unit) : IO (Except FileFault Unit) := do
  match ← action.toBaseIO with
  | .ok () => return .ok ()
  | .error e => return .error (.ofReport e)

/-- Make directories on the machine. -/
def makeDirectories (path : Path) : IO (Except FileFault Unit) :=
  if path.text.isEmpty then return .ok () else attempted (IO.FS.createDirAll path.text)

/-- Run a session that was started at a time of the clock. -/
def Session.perform (started : Nat) : Session α → IO α
  | .done a => return a
  | .read path next => do (next (← readFile path)).perform started
  | .makeDirectories path next => do (next (← HandlerWiring.makeDirectories path)).perform started
  | .write path content next => do
    (next (← attempted (IO.FS.writeFile path.text content))).perform started
  | .elapsed next => do (next ((← IO.monoMsNow) - started)).perform started
  | .print text next => do
    IO.print text
    next.perform started
  | .complain text next => do
    IO.eprint text
    next.perform started
  | .report _ next => next.perform started

end HandlerWiring

/-- Run the program with the words of the command line. -/
def main (words : List String) : IO UInt32 := do
  let directives := (← IO.getEnv "RUST_LOG").getD ""
  let code ← (HandlerWiring.Program.session words directives).perform (← IO.monoMsNow)
  return code.toUInt32
