import HandlerWiring.Command.Run
import HandlerWiring.Proofs.Input
import HandlerWiring.Proofs.Program

/-!
# What the commands tell of a failing input

With a document for machines, a command whose inputs fail prints a document with one entry about
the failure, changes no file and ends with one. The entry has the code and the words of the fault
and names a file. In `generate` and `config` that is the input at fault. In `validate` it is the
snapshot also where the settings file cannot be read; this is the only difference.
-/

namespace HandlerWiring

/-- The fault of the inputs of a command, if there is one, with the path of the input at fault:
the snapshot if it cannot be loaded, else the settings. -/
def inputFault? (files : FileSystem) (decls : Path) (settings : Option Path)
    (properties : List Property) : Option (InputFault × String) :=
  match LoadedSnapshot.found files decls with
  | .error fault => some (fault, decls.text)
  | .ok loaded =>
    match Sources.found files loaded.snapshot.options settings properties with
    | .error fault => some (fault, Command.fileName settings)
    | .ok _ => none

/-- The snapshot is loaded and the settings file cannot be read. -/
def SettingsUnreadable (files : FileSystem) (decls : Path) (settings : Option Path) : Prop :=
  (∃ loaded, LoadedSnapshot.found files decls = .ok loaded) ∧
    ∃ path cause, settings = some path ∧ files.read path = .error cause

/-- A run in which a command told of a failure by a document. -/
def Program.Ending.telling (w : World) (form : Json.Form α) (document : α) : Ending :=
  { code := 1, files := w.files, printed := w.printed ++ (form.pretty document ++ "\n") }

/-- What is told of a fault: the stable code of its kind, and the fault in words with the path or
the name that it is about. -/
inductive InputFault.ToldAs : InputFault → String → String → Prop where
  | unreadable (path : Path) (cause : FileFault) :
    ToldAs (.unreadable path cause) "CLI_001"
      ("failed to read file '" ++ path.text ++ "': " ++ cause.message)
  | notASnapshot (cause : Json.Fault) :
    ToldAs (.notASnapshot cause) "CLI_002" ("JSON parse error: " ++ cause.message)
  | notASettingsFile (path : Path) :
    ToldAs (.notASettingsFile path) "CLI_003"
      ("invalid settings file '" ++ path.text ++ "': <toml>")
  | compoundSetting (key : String) :
    ToldAs (.compoundSetting key) "CLI_003"
      ("setting '" ++ key ++ "' must be a string, number, or boolean")

theorem InputFault.toldAs (fault : InputFault) : fault.ToldAs fault.code fault.message := by
  cases fault with
  | unreadable path cause => exact .unreadable path cause
  | notASnapshot cause => exact .notASnapshot cause
  | notASettingsFile path => exact .notASettingsFile path
  | compoundSetting key => exact .compoundSetting key

/-- Either the snapshot is at fault, or it is loaded and the settings are. -/
theorem inputFault?_cases {files : FileSystem} {decls : Path} {settings : Option Path}
    {properties : List Property} {fault : InputFault} {file : String}
    (fails : inputFault? files decls settings properties = some (fault, file)) :
    (LoadedSnapshot.found files decls = .error fault ∧ file = decls.text) ∨
      ∃ loaded, LoadedSnapshot.found files decls = .ok loaded ∧
        Sources.found files loaded.snapshot.options settings properties = .error fault ∧
        file = Command.fileName settings := by
  unfold inputFault? at fails
  cases loading : LoadedSnapshot.found files decls with
  | error cause =>
    rw [loading] at fails
    cases fails
    exact .inl ⟨rfl, rfl⟩
  | ok loaded =>
    simp only [loading] at fails
    cases assembling : Sources.found files loaded.snapshot.options settings properties with
    | error cause =>
      rw [assembling] at fails
      cases fails
      exact .inr ⟨loaded, rfl, assembling, rfl⟩
    | ok sources =>
      rw [assembling] at fails
      cases fails

/-- A fault of a snapshot is blamed on the snapshot. -/
theorem blamedFile_of_loading {files : FileSystem} {decls : Path} {fault : InputFault}
    (h : LoadedSnapshot.found files decls = .error fault) (settings : Option Path) :
    Command.blamedFile decls settings fault = decls.text := by
  unfold LoadedSnapshot.found LoadedSnapshot.ofText at h
  split at h
  · cases h
    rfl
  · split at h
    · cases h
    · cases h
      rfl

/-- A fault of the settings is blamed on their file unless that cannot be read. -/
theorem blamedFile_of_settings {files : FileSystem} {options : Dictionary}
    {settings : Option Path} {properties : List Property} {fault : InputFault}
    (h : Sources.found files options settings properties = .error fault) (decls : Path) :
    (∃ path cause, settings = some path ∧ files.read path = .error cause ∧
        Command.blamedFile decls settings fault = decls.text) ∨
      ∃ path text, settings = some path ∧ files.read path = .ok text ∧
        Command.blamedFile decls settings fault = Command.fileName settings := by
  cases settings with
  | none => cases h
  | some path =>
    simp only [Sources.found, Sources.settingsFound] at h
    cases reading : files.read path with
    | error cause =>
      rw [reading] at h
      cases h
      exact .inl ⟨path, cause, rfl, reading, rfl⟩
    | ok text =>
      refine .inr ⟨path, text, rfl, reading, ?_⟩
      simp only [reading, Sources.settingsOf] at h
      split at h
      · cases h
      · cases h
        rfl
      · cases h
        rfl

namespace Command

variable {w : World} {decls : Path} {settings : Option Path} {properties : List Property}
  {fault : InputFault} {file : String}

/-- The command `generate` names the input at fault. -/
theorem ending_generate_of_fault (filter : LogFilter) (outDir : Path) (denyWarnings : Bool)
    (fails : inputFault? w.files decls settings properties = some (fault, file)) :
    ∃ hash, Program.ending filter (.generate decls outDir settings properties denyWarnings)
      .document w = .telling w GenerateDocument.form (.failure (fault.entry file) hash) := by
  rw [Program.ending_eq, session, generateJson, Session.run_bind, LoadedSnapshot.run_load]
  rcases inputFault?_cases fails with ⟨loading, rfl⟩ | ⟨loaded, loading, assembling, rfl⟩
  · rw [loading]
    exact ⟨none, rfl⟩
  · simp only [loading, Session.run_bind, Sources.run_assemble, World.files_reporting, assembling]
    exact ⟨some loaded.sourceHash, rfl⟩

/-- The command `config` names the input at fault. -/
theorem ending_config_of_fault (filter : LogFilter)
    (fails : inputFault? w.files decls settings properties = some (fault, file)) :
    Program.ending filter (.config (some decls) settings properties) .document w =
      .telling w ConfigDocument.form (.failure (fault.entry file)) := by
  rw [Program.ending_eq, session, configJson, Session.run_bind, resolvedSettings,
    Session.run_bind, loadOptions, Session.run_bind, LoadedSnapshot.run_load]
  rcases inputFault?_cases fails with ⟨loading, rfl⟩ | ⟨loaded, loading, assembling, rfl⟩
  · rw [loading]
    rfl
  · simp only [loading, Session.run_pure, Session.run_bind, Sources.run_assemble,
      World.files_reporting, assembling]
    rfl

/-- The command `validate` names the file it blames. -/
theorem ending_validate_of_fault (filter : LogFilter) (denyWarnings : Bool)
    (fails : inputFault? w.files decls settings properties = some (fault, file)) :
    Program.ending filter (.validate decls settings properties denyWarnings) .document w =
      .telling w ValidateDocument.form
        (.failure (fault.entry (blamedFile decls settings fault))) := by
  rw [Program.ending_eq, session, validateJson, Session.run_bind, checkedSnapshot,
    Session.run_bind, LoadedSnapshot.run_load]
  rcases inputFault?_cases fails with ⟨loading, rfl⟩ | ⟨loaded, loading, assembling, rfl⟩
  · rw [loading]
    rfl
  · simp only [loading, Session.run_bind, Sources.run_assemble, World.files_reporting, assembling]
    rfl

/-- The file that `validate` blames is the input at fault, unless the settings file cannot be read:
then it is the snapshot. -/
theorem blamedFile_eq_iff
    (fails : inputFault? w.files decls settings properties = some (fault, file)) :
    (blamedFile decls settings fault = file ↔ ¬SettingsUnreadable w.files decls settings) ∧
      (SettingsUnreadable w.files decls settings →
        blamedFile decls settings fault = decls.text) := by
  rcases inputFault?_cases fails with ⟨loading, rfl⟩ | ⟨loaded, loading, assembling, rfl⟩
  · have blamed := blamedFile_of_loading loading settings
    refine ⟨⟨?_, fun _ => blamed⟩, fun _ => blamed⟩
    rintro - ⟨⟨loaded, found⟩, -⟩
    rw [loading] at found
    cases found
  · rcases blamedFile_of_settings assembling decls with
      ⟨path, cause, rfl, reading, blamed⟩ | ⟨path, text, rfl, reading, blamed⟩
    · have unreadable : SettingsUnreadable w.files decls (some path) :=
        ⟨⟨loaded, loading⟩, path, cause, rfl, reading⟩
      refine ⟨⟨?_, fun readable => absurd unreadable readable⟩, fun _ => blamed⟩
      intro same
      -- The snapshot was read, so it cannot be the file that could not be.
      rw [blamed] at same
      have samePath : decls = path := congrArg Path.mk same
      rw [samePath, LoadedSnapshot.found, reading] at loading
      cases loading
    · have readable : ¬SettingsUnreadable w.files decls (some path) := by
        rintro ⟨-, _, cause, same, unread⟩
        cases same
        rw [reading] at unread
        cases unread
      exact ⟨⟨fun _ => readable, fun _ => blamed⟩, fun unreadable => absurd unreadable readable⟩

end Command

/-- Whenever the inputs fail, the three commands with a document for machines change no file, end
with one and tell of the fault by one entry, with its code and its words. In `generate` and `config`
the entry names the input at fault. In `validate` it names the same file except if the snapshot is
loaded and the settings file cannot be read; then it names the snapshot. -/
theorem failing_inputs_told (filter : LogFilter) (outDir : Path) (denyGenerate denyValidate : Bool)
    (w : World) (decls : Path) (settings : Option Path) (properties : List Property)
    (fault : InputFault) (file : String)
    (fails : inputFault? w.files decls settings properties = some (fault, file)) :
    let ending (command : Command) := Program.ending filter command .document w
    ∃ code message named hash, fault.ToldAs code message ∧
      ending (.generate decls outDir settings properties denyGenerate) =
          .telling w GenerateDocument.form
            { success := false, errors := [⟨code, message, some file⟩], diagnostics := []
              registrations := [], unit := none, sourceHash := hash } ∧
        ending (.config (some decls) settings properties) =
          .telling w ConfigDocument.form
            { success := false, errors := [⟨code, message, some file⟩], settings := [] } ∧
        ending (.validate decls settings properties denyValidate) =
          .telling w ValidateDocument.form
            { success := false, errors := [⟨code, message, some named⟩], diagnostics := []
              points := [], sourceHash := none } ∧
        (named = file ↔ ¬SettingsUnreadable w.files decls settings) ∧
        (SettingsUnreadable w.files decls settings → named = decls.text) := by
  intro ending
  obtain ⟨hash, generate⟩ := Command.ending_generate_of_fault filter outDir denyGenerate fails
  exact ⟨fault.code, fault.message, Command.blamedFile decls settings fault, hash, fault.toldAs,
    generate, Command.ending_config_of_fault filter fails,
    Command.ending_validate_of_fault filter denyValidate fails,
    Command.blamedFile_eq_iff fails⟩

/-- An empty snapshot and a settings file that is not there: `generate` names the settings file,
`validate` the snapshot. -/
theorem failing_inputs_told_missing_settings :
    let w := World.ofFiles ⟨[(["decls.json"], .text "\x7b\x7d")], []⟩
    let words := "failed to read file 'missing.toml': No such file or directory (os error 2)"
    let ending (command : Command) := Program.ending (.ofText .warn "") command .document w
    (∃ hash, ending (.generate ⟨"decls.json"⟩ ⟨"out"⟩ (some ⟨"missing.toml"⟩) [] false) =
        .telling w GenerateDocument.form
          ⟨false, [⟨"CLI_001", words, some "missing.toml"⟩], [], [], none, hash⟩) ∧
      ending (.validate ⟨"decls.json"⟩ (some ⟨"missing.toml"⟩) [] false) =
        .telling w ValidateDocument.form
          ⟨false, [⟨"CLI_001", words, some "decls.json"⟩], [], [], none⟩ := by
  intro w words ending
  have fails : inputFault? w.files ⟨"decls.json"⟩ (some ⟨"missing.toml"⟩) [] =
      some (.unreadable ⟨"missing.toml"⟩ .notFound, "missing.toml") := rfl
  obtain ⟨code, message, named, hash, told, generate, -, validate, -, blamed⟩ :=
    failing_inputs_told (.ofText .warn "") ⟨"out"⟩ false false w _ _ _ _ _ fails
  have unreadable : SettingsUnreadable w.files ⟨"decls.json"⟩ (some ⟨"missing.toml"⟩) :=
    ⟨⟨_, rfl⟩, _, _, rfl, rfl⟩
  rw [blamed unreadable] at validate
  cases told
  exact ⟨⟨hash, generate⟩, validate⟩

end HandlerWiring
