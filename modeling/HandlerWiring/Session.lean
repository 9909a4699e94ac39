import HandlerWiring.Event
import HandlerWiring.FileSystem.Basic

/-!
# Sessions

A session is a program that talks to the world through a few requests: reading and writing files,
making directories, printing, complaining, asking how much time has passed, and reporting events.
`run` answers the requests from a world that is a value; whoever runs a session on a machine
answers them there.
-/

namespace HandlerWiring

/-- A program that ends in a result. -/
inductive Session (α : Type) where
  | done (result : α)
  | read (path : Path) (next : Except FileFault String → Session α)
  | makeDirectories (path : Path) (next : Except FileFault Unit → Session α)
  | write (path : Path) (content : String) (next : Except FileFault Unit → Session α)
  /-- Ask for the milliseconds since the session started. -/
  | elapsed (next : Nat → Session α)
  /-- Print a text. -/
  | print (text : String) (next : Session α)
  /-- Print a text where complaints go. -/
  | complain (text : String) (next : Session α)
  | report (event : Event) (next : Session α)

/-- What a session talks to. -/
structure World where
  files : FileSystem
  /-- What was printed. -/
  printed : String
  /-- What was printed as complaint. -/
  complaints : String
  /-- What was reported. -/
  events : List Event
  /-- The milliseconds since the session started. -/
  elapsed : Nat

namespace World

/-- The world with these files, in which nothing has happened. -/
def ofFiles (files : FileSystem) : World := ⟨files, "", "", [], 0⟩

/-- Write a file. -/
def write (w : World) (path : Path) (content : String) : Except FileFault Unit × World :=
  match w.files.write path content with
  | .ok files => (.ok (), { w with files })
  | .error fault => (.error fault, w)

/-- Make directories. -/
def makeDirectories (w : World) (path : Path) : Except FileFault Unit × World :=
  let (result, files) := w.files.makeDirectories path
  (result, { w with files })

end World

namespace Session

/-- Go on with a result. -/
def andThen : Session α → (α → Session β) → Session β
  | .done a, f => f a
  | .read path next, f => .read path fun r => (next r).andThen f
  | .makeDirectories path next, f => .makeDirectories path fun r => (next r).andThen f
  | .write path content next, f => .write path content fun r => (next r).andThen f
  | .elapsed next, f => .elapsed fun n => (next n).andThen f
  | .print text next, f => .print text (next.andThen f)
  | .complain text next, f => .complain text (next.andThen f)
  | .report event next, f => .report event (next.andThen f)

instance : Monad Session where
  pure := .done
  bind := andThen

/-- Run a session in a world. -/
def run : Session α → World → α × World
  | .done a, w => (a, w)
  | .read path next, w => (next (w.files.read path)).run w
  | .makeDirectories path next, w =>
    let (result, w) := w.makeDirectories path
    (next result).run w
  | .write path content next, w =>
    let (result, w) := w.write path content
    (next result).run w
  | .elapsed next, w => (next w.elapsed).run w
  | .print text next, w => next.run { w with printed := w.printed ++ text }
  | .complain text next, w => next.run { w with complaints := w.complaints ++ text }
  | .report event next, w => next.run { w with events := w.events ++ [event] }

@[simp] theorem run_pure (a : α) (w : World) : (pure a : Session α).run w = (a, w) := rfl

/-- Running one session after the other. -/
@[simp] theorem run_bind (s : Session α) (f : α → Session β) (w : World) :
    (s >>= f).run w = (f (s.run w).1).run (s.run w).2 := by
  change (s.andThen f).run w = _
  induction s generalizing w with
  | done a => rfl
  | read path next ih => simp [andThen, run, ih]
  | makeDirectories path next ih => simp [andThen, run, ih]
  | write path content next ih => simp [andThen, run, ih]
  | elapsed next ih => simp [andThen, run, ih]
  | print text next ih => simp [andThen, run, ih]
  | complain text next ih => simp [andThen, run, ih]
  | report event next ih => simp [andThen, run, ih]

/-! ## Requests -/

/-- Print a line. -/
def printLine (line : String) : Session Unit := .print (line ++ "\n") (.done ())

/-- Print several lines. -/
def printLines : List String → Session Unit
  | [] => .done ()
  | line :: rest => do
    printLine line
    printLines rest

/-- Print a line where complaints go. -/
def complainLine (line : String) : Session Unit := .complain (line ++ "\n") (.done ())

/-- Report some events. -/
def reportAll : List Event → Session Unit
  | [] => .done ()
  | e :: rest => .report e (reportAll rest)

/-- Report the events of a result and go on with it. -/
def ofLogged (x : Logged α) : Session α := do
  reportAll x.events
  return x.value

/-- The session that complains of the events it would report, each as a line, if it has one. -/
def loggingTo (line : Event → Option String) : Session α → Session α
  | .done a => .done a
  | .read path next => .read path fun r => (next r).loggingTo line
  | .makeDirectories path next => .makeDirectories path fun r => (next r).loggingTo line
  | .write path content next => .write path content fun r => (next r).loggingTo line
  | .elapsed next => .elapsed fun n => (next n).loggingTo line
  | .print text next => .print text (next.loggingTo line)
  | .complain text next => .complain text (next.loggingTo line)
  | .report event next =>
    match line event with
    | some l => .complain (l ++ "\n") (next.loggingTo line)
    | none => next.loggingTo line

end Session

end HandlerWiring
