import HandlerWiring.Input
import HandlerWiring.Proofs.Declaration.Snapshot
import HandlerWiring.Proofs.Session

/-!
# What the inputs of a command come to

Loading a snapshot and putting the settings together only look at the files, so what they come to
is a function of the files, and the world afterwards differs by reports alone.
-/

namespace HandlerWiring

namespace LoadedSnapshot

/-- The snapshot in a file. -/
def found (files : FileSystem) (path : Path) : Except InputFault LoadedSnapshot :=
  match files.read path with
  | .error cause => .error (.unreadable path cause)
  | .ok text => ofText text

/-- What is reported about a snapshot that was looked for. -/
def events (path : Path) : Except InputFault LoadedSnapshot → List Event
  | .error _ => []
  | .ok l => [loaded path l.snapshot]

@[simp] theorem run_load (path : Path) (w : World) :
    (load path).run w = (found w.files path, w.reporting (events path (found w.files path))) := by
  rw [load, Session.run, found]
  cases w.files.read path with
  | error cause => simp [Session.run, events, World.reporting]
  | ok text =>
    cases read : ofText text with
    | error fault => simp [read, Session.run, events, World.reporting]
    | ok l => simp [read, Session.run, events, World.reporting]

/-- A stored snapshot is found as it was stored. -/
theorem found_of_stored {files : FileSystem} {path : Path} {s : Snapshot}
    (stored : files.read path = .ok (Snapshot.form.pretty s)) :
    found files path = .ok ⟨s, Digest.ofText (Snapshot.form.pretty s)⟩ := by
  rw [found, stored]
  simp only [ofText, Snapshot.form_readable.parse_pretty s]

end LoadedSnapshot

namespace Sources

/-- The settings in a file, none if there is no file to read. -/
def settingsFound (files : FileSystem) : Option Path → Except InputFault Dictionary
  | none => .ok .empty
  | some path =>
    match files.read path with
    | .error cause => .error (.unreadable path cause)
    | .ok text => settingsOf path text

@[simp] theorem run_loadSettings (settings : Option Path) (w : World) :
    (loadSettings settings).run w = (settingsFound w.files settings, w) := by
  cases settings with
  | none => rfl
  | some path =>
    rw [loadSettings, Session.run, settingsFound]
    cases w.files.read path with
    | error cause => rfl
    | ok text => rfl

/-- The two sources, with the settings found in a file. -/
def found (files : FileSystem) (options : Dictionary) (settings : Option Path)
    (properties : List Property) : Except InputFault Sources :=
  (settingsFound files settings).map (combine options properties)

@[simp] theorem run_assemble (options : Dictionary) (settings : Option Path)
    (properties : List Property) (w : World) :
    (assemble options settings properties).run w =
      (found w.files options settings properties, w) := by
  rw [assemble, Session.run_bind, run_loadSettings, found]
  cases settingsFound w.files settings with
  | error fault => rfl
  | ok read => rfl

/-- Without settings file and properties, both sources are what the options say. -/
theorem found_of_options (files : FileSystem) (options : Dictionary) :
    found files options none [] = .ok ⟨options, options⟩ := rfl

end Sources

end HandlerWiring
