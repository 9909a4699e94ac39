import HandlerWiring.Program
import HandlerWiring.Proofs.Session

/-!
# How the program ends

The number that the program ends with when it runs a command, and the files it leaves, are those of
the command's session: the log filter and the words of a failure only go where complaints go.
-/

namespace HandlerWiring.Program

/-- The number for the result of a command; a failure counts as one. -/
def exitCode : Except Failure ExitStatus → Nat
  | .ok status => status.code
  | .error _ => 1

/-- The program ends like the session of its command. -/
theorem run_invoked (filter : LogFilter) (i : CommandLine.Invocation) (w : World) :
    ((invoked filter i).run w).1 = exitCode ((i.command.session i.output).run w).1 ∧
      ((invoked filter i).run w).2.Alike ((i.command.session i.output).run w).2 := by
  obtain ⟨result, alike⟩ :=
    Session.run_loggingTo filter.line? (i.command.session i.output) (World.Alike.refl w)
  rw [invoked, Session.run_bind, result]
  cases ((i.command.session i.output).run w).1 with
  | ok status => exact ⟨rfl, alike⟩
  | error f => exact ⟨rfl, alike.files, alike.printed, alike.elapsed⟩

/-- What a run of the program comes to. -/
structure Ending where
  /-- The number it ends with. -/
  code : Nat
  files : FileSystem
  printed : String

/-- What the program comes to when it runs a command. -/
def ending (filter : LogFilter) (command : Command) (output : Output) (w : World) : Ending :=
  let (code, after) := (invoked filter ⟨false, command, output⟩).run w
  ⟨code, after.files, after.printed⟩

theorem ending_eq (filter : LogFilter) (command : Command) (output : Output) (w : World) :
    ending filter command output w =
      ⟨exitCode ((command.session output).run w).1, ((command.session output).run w).2.files,
        ((command.session output).run w).2.printed⟩ := by
  obtain ⟨code, alike⟩ := run_invoked filter ⟨false, command, output⟩ w
  rw [ending, ← alike.files, ← alike.printed, ← code]

end HandlerWiring.Program
