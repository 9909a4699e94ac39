import HandlerWiring.Proofs.Command.Generate

/-!
# The document of a command

Asked for a document, a command prints exactly one, whatever its inputs come to, and never fails
itself: a failure is told in the document. The document and the files that the command leaves are
functions of the files that it finds. With lines for people the command leaves the same files, and
the program ends with the number that the document calls for.
-/

namespace HandlerWiring

/-- The document of one of the commands. -/
inductive Document where
  | generate (d : GenerateDocument)
  | validate (d : ValidateDocument)
  | scan (d : ScanDocument)
  | config (d : ConfigDocument)
deriving DecidableEq, Repr

namespace Document

/-- Whether the document tells of success. -/
def success : Document → Bool
  | .generate d => d.success
  | .validate d => d.success
  | .scan d => d.success
  | .config d => d.success

/-- The diagnostics that the document reports. -/
def diagnostics : Document → List DiagnosticEntry
  | .generate d => d.diagnostics
  | .validate d => d.diagnostics
  | .scan _ | .config _ => []

/-- The document as it is printed. -/
def text : Document → String
  | .generate d => GenerateDocument.form.pretty d ++ "\n"
  | .validate d => ValidateDocument.form.pretty d ++ "\n"
  | .scan d => ScanDocument.form.pretty d ++ "\n"
  | .config d => ConfigDocument.form.pretty d ++ "\n"

/-- How a command ends whose findings the document tells of. -/
def status (d : Document) : ExitStatus := if d.success then .success else .failure

theorem code_status_eq_zero_iff (d : Document) : d.status.code = 0 ↔ d.success = true := by
  unfold status
  cases d.success with
  | true => exact ⟨fun _ => rfl, fun _ => rfl⟩
  | false => exact ⟨fun zero => (nomatch zero), fun told => (nomatch told)⟩

theorem code_status_eq_one_iff (d : Document) : d.status.code = 1 ↔ d.success = false := by
  unfold status
  cases d.success with
  | true => exact ⟨fun one => (nomatch one), fun told => (nomatch told)⟩
  | false => exact ⟨fun _ => rfl, fun _ => rfl⟩

end Document

/-- A status that is told as a flag. -/
theorem ExitStatus.ite_beq_success (status : ExitStatus) :
    (if status == .success then ExitStatus.success else .failure) = status := by
  cases status with
  | success => rfl
  | failure => rfl

namespace Command

/-! ## What the commands find -/

/-- The report of a validation and the digest of the snapshot, from some files. -/
def validation (decls : Path) (settings : Option Path) (properties : List Property)
    (files : FileSystem) : Except InputFault (Report × String) :=
  match LoadedSnapshot.found files decls with
  | .error fault => .error fault
  | .ok loaded =>
    match Sources.found files loaded.snapshot.options settings properties with
    | .error fault => .error fault
    | .ok sources =>
      .ok ((Report.ofMethods (Strictness.resolve sources).value loaded.snapshot.methods).value,
        loaded.sourceHash)

/-- The options of a snapshot in some files, none if there is no snapshot to load. -/
def optionsFound (files : FileSystem) : Option Path → Except (InputFault × String) Dictionary
  | none => .ok .empty
  | some path =>
    match LoadedSnapshot.found files path with
    | .error fault => .error (fault, path.text)
    | .ok loaded => .ok loaded.snapshot.options

/-- The values of all settings, from some files. -/
def listing (decls settings : Option Path) (properties : List Property) (files : FileSystem) :
    Except (InputFault × String) (List Resolved) :=
  match optionsFound files decls with
  | .error fault => .error fault
  | .ok options =>
    match Sources.found files options settings properties with
    | .error fault => .error (fault, fileName settings)
    | .ok sources => .ok (Setting.resolveAll sources).value

variable (decls outDir : Path) (settings : Option Path) (properties : List Property)
  (denyWarnings : Bool) (w : World)

theorem run_checkedSnapshot : ∃ events,
    (checkedSnapshot decls settings properties).run w =
      (validation decls settings properties w.files, w.reporting events) := by
  simp only [checkedSnapshot, validation, Session.run_bind, LoadedSnapshot.run_load]
  cases LoadedSnapshot.found w.files decls with
  | error fault => exact ⟨_, rfl⟩
  | ok loaded =>
    simp only [Session.run_bind, Sources.run_assemble, World.files_reporting]
    cases Sources.found w.files loaded.snapshot.options settings properties with
    | error fault => exact ⟨_, rfl⟩
    | ok sources =>
      simp only [Session.run_bind, Session.run_ofLogged, Session.run_reportAll,
        World.reporting_reporting]
      exact ⟨_, rfl⟩

theorem run_loadOptions (decls : Option Path) : ∃ events,
    (loadOptions decls).run w = (optionsFound w.files decls, w.reporting events) := by
  cases decls with
  | none => exact ⟨[], congrArg (Prod.mk _) (World.reporting_nil w).symm⟩
  | some path =>
    simp only [loadOptions, optionsFound, Session.run_bind, LoadedSnapshot.run_load]
    cases LoadedSnapshot.found w.files path with
    | error fault => exact ⟨_, rfl⟩
    | ok loaded => exact ⟨_, rfl⟩

theorem run_resolvedSettings (decls : Option Path) : ∃ events,
    (resolvedSettings decls settings properties).run w =
      (listing decls settings properties w.files, w.reporting events) := by
  obtain ⟨events, loading⟩ := run_loadOptions w decls
  simp only [resolvedSettings, listing, Session.run_bind, loading]
  cases optionsFound w.files decls with
  | error fault => exact ⟨_, rfl⟩
  | ok options =>
    simp only [Session.run_bind, Sources.run_assemble, World.files_reporting]
    cases Sources.found w.files options settings properties with
    | error fault => exact ⟨_, rfl⟩
    | ok sources =>
      simp only [Session.run_bind, Session.run_ofLogged, World.reporting_reporting]
      exact ⟨_, rfl⟩

/-! ## What the documents tell -/

/-- The document of `generate`. -/
def generateTold (files : FileSystem) : GenerateDocument :=
  match LoadedSnapshot.found files decls with
  | .error fault => .failure (fault.entry decls.text) none
  | .ok loaded =>
    match Sources.found files loaded.snapshot.options settings properties with
    | .error fault => .failure (fault.entry (fileName settings)) (some loaded.sourceHash)
    | .ok sources =>
      let outcome := (loaded.snapshot.generate sources).value
      match (outcome.placed outDir files).1 with
      | .error fault => .failure fault.entry (some loaded.sourceHash)
      | .ok path =>
        generateDocument loaded.sourceHash outcome path (taken denyWarnings outcome.diagnostics)

/-- The document of `validate`. -/
def validateTold (files : FileSystem) : ValidateDocument :=
  match validation decls settings properties files with
  | .error fault => .failure (fault.entry (blamedFile decls settings fault))
  | .ok (report, sourceHash) =>
    validateDocument sourceHash report (taken denyWarnings report.diagnostics)

/-- The document of `scan`. -/
def scanTold (files : FileSystem) : ScanDocument :=
  match LoadedSnapshot.found files decls with
  | .error fault => .failure (fault.entry decls.text)
  | .ok loaded => scanDocument loaded.sourceHash (Registration.scan loaded.snapshot.types).value

/-- The document of `config`. -/
def configTold (decls : Option Path) (files : FileSystem) : ConfigDocument :=
  match listing decls settings properties files with
  | .error (fault, file) => .failure (fault.entry file)
  | .ok resolved => configDocument resolved

/-- The document of a command that finds some files. -/
def told (files : FileSystem) : Command → Document
  | .generate decls outDir settings properties denyWarnings =>
    .generate (generateTold decls outDir settings properties denyWarnings files)
  | .validate decls settings properties denyWarnings =>
    .validate (validateTold decls settings properties denyWarnings files)
  | .scan decls => .scan (scanTold decls files)
  | .config decls settings properties => .config (configTold settings properties decls files)

/-- The files that a command leaves. -/
def left (files : FileSystem) : Command → FileSystem
  | .generate decls outDir settings properties _ =>
    (generation decls outDir settings properties files).2
  | .validate .. | .scan _ | .config .. => files

/-- The session prints a document, ends by it and leaves some files. -/
structure Tells (s : Session (Except Failure ExitStatus)) (d : Document) (after : FileSystem) :
    Prop where
  result : (s.run w).1 = .ok d.status
  files : (s.run w).2.files = after
  printed : (s.run w).2.printed = w.printed ++ d.text

theorem generateJson_tells :
    Tells w (generateJson decls outDir settings properties denyWarnings)
      (.generate (generateTold decls outDir settings properties denyWarnings w.files))
      (generation decls outDir settings properties w.files).2 := by
  obtain ⟨-, files⟩ := run_generateJson decls outDir settings properties denyWarnings w
  suffices told : _ ∧ _ from ⟨told.1, files, told.2⟩
  simp only [generateJson, generateTold, Session.run_bind, LoadedSnapshot.run_load]
  cases LoadedSnapshot.found w.files decls with
  | error fault => exact ⟨rfl, rfl⟩
  | ok loaded =>
    simp only [Session.run_bind, Sources.run_assemble, World.files_reporting]
    cases Sources.found w.files loaded.snapshot.options settings properties with
    | error fault => exact ⟨rfl, rfl⟩
    | ok sources =>
      simp only [Session.run_bind, Session.run_ofLogged, Outcome.run_writeInto,
        World.files_reporting]
      cases ((loaded.snapshot.generate sources).value.placed outDir w.files).1 with
      | error fault => exact ⟨rfl, rfl⟩
      | ok path =>
        refine ⟨?_, rfl⟩
        exact congrArg Except.ok (ExitStatus.ite_beq_success _).symm

theorem validateJson_tells :
    Tells w (validateJson decls settings properties denyWarnings)
      (.validate (validateTold decls settings properties denyWarnings w.files)) w.files := by
  obtain ⟨events, checking⟩ := run_checkedSnapshot decls settings properties w
  suffices told : _ ∧ _ ∧ _ from ⟨told.1, told.2.1, told.2.2⟩
  simp only [validateJson, validateTold, Session.run_bind, checking]
  cases validation decls settings properties w.files with
  | error fault => exact ⟨rfl, rfl, rfl⟩
  | ok checked =>
    refine ⟨?_, rfl, rfl⟩
    exact congrArg Except.ok (ExitStatus.ite_beq_success _).symm

theorem scanJson_tells : Tells w (scanJson decls) (.scan (scanTold decls w.files)) w.files := by
  suffices told : _ ∧ _ ∧ _ from ⟨told.1, told.2.1, told.2.2⟩
  simp only [scanJson, scanTold, Session.run_bind, LoadedSnapshot.run_load]
  cases LoadedSnapshot.found w.files decls with
  | error fault => exact ⟨rfl, rfl, rfl⟩
  | ok loaded =>
    simp only [Session.run_bind, Session.run_ofLogged]
    exact ⟨rfl, rfl, rfl⟩

theorem configJson_tells (decls : Option Path) :
    Tells w (configJson decls settings properties)
      (.config (configTold settings properties decls w.files)) w.files := by
  obtain ⟨events, resolving⟩ := run_resolvedSettings settings properties w decls
  suffices told : _ ∧ _ ∧ _ from ⟨told.1, told.2.1, told.2.2⟩
  simp only [configJson, configTold, Session.run_bind, resolving]
  cases listing decls settings properties w.files with
  | error fault => exact ⟨rfl, rfl, rfl⟩
  | ok resolved => exact ⟨rfl, rfl, rfl⟩

/-- Asked for a document, every command prints the one that tells of its findings and ends by
it. -/
theorem session_tells (command : Command) :
    Tells w (command.session .document) (command.told w.files) (command.left w.files) := by
  cases command with
  | generate decls outDir settings properties denyWarnings => exact generateJson_tells ..
  | validate decls settings properties denyWarnings => exact validateJson_tells ..
  | scan decls => exact scanJson_tells ..
  | config decls settings properties => exact configJson_tells ..

theorem ending_document (filter : LogFilter) (command : Command) :
    Program.ending filter command .document w =
      ⟨(command.told w.files).status.code, command.left w.files,
        w.printed ++ (command.told w.files).text⟩ := by
  obtain ⟨result, files, printed⟩ := session_tells w command
  rw [Program.ending_eq, result, files, printed]
  rfl

/-! ## Lines for people -/

/-- The session ends with the number that a document calls for and leaves some files. -/
structure EndsLike (s : Session (Except Failure ExitStatus)) (d : Document)
    (after : FileSystem) : Prop where
  code : Program.exitCode (s.run w).1 = d.status.code
  files : (s.run w).2.files = after

/-- The document of `generate` calls for the status of the generation. -/
theorem status_generateTold (files : FileSystem) :
    (Document.generate (generateTold decls outDir settings properties denyWarnings files)).status =
      Generation.toldStatus denyWarnings
        (generation decls outDir settings properties files).1 := by
  unfold generateTold generation
  cases LoadedSnapshot.found files decls with
  | error fault => rfl
  | ok loaded =>
    dsimp only
    cases Sources.found files loaded.snapshot.options settings properties with
    | error fault => rfl
    | ok sources =>
      dsimp only
      cases (loaded.snapshot.generate sources).value.placed outDir files with
      | mk result after =>
        cases result with
        | error fault => rfl
        | ok path => exact ExitStatus.ite_beq_success _

theorem generateProse_endsLike (colours : Bool) :
    EndsLike w (generateProse colours decls outDir settings properties denyWarnings)
      (.generate (generateTold decls outDir settings properties denyWarnings w.files))
      (generation decls outDir settings properties w.files).2 := by
  obtain ⟨result, files⟩ :=
    run_generateProse decls outDir settings properties denyWarnings w colours
  refine ⟨?_, files⟩
  rw [result, status_generateTold]
  cases (generation decls outDir settings properties w.files).1 with
  | error failure => rfl
  | ok g => rfl

theorem validateProse_endsLike (colours : Bool) :
    EndsLike w (validateProse colours decls settings properties denyWarnings)
      (.validate (validateTold decls settings properties denyWarnings w.files)) w.files := by
  obtain ⟨events, checking⟩ := run_checkedSnapshot decls settings properties
    (w.printing (Text.styled colours .boldCyan "Validating:" ++ " " ++ decls.text ++ "\n"))
  suffices ends : _ ∧ _ from ⟨ends.1, ends.2⟩
  simp only [validateProse, validateTold, Session.run_bind, Session.run_printLine, checking,
    World.files_printing]
  cases validation decls settings properties w.files with
  | error fault => exact ⟨rfl, rfl⟩
  | ok checked =>
    simp only [Session.run_bind, Session.run_printLine, Session.run_printLines]
    refine ⟨?_, rfl⟩
    exact congrArg ExitStatus.code (ExitStatus.ite_beq_success _).symm

theorem scanProse_endsLike (colours : Bool) :
    EndsLike w (scanProse colours decls) (.scan (scanTold decls w.files)) w.files := by
  suffices ends : _ ∧ _ from ⟨ends.1, ends.2⟩
  simp only [scanProse, scanTold, Session.run_bind, Session.run_printLine, LoadedSnapshot.run_load,
    World.files_printing]
  cases LoadedSnapshot.found w.files decls with
  | error fault => exact ⟨rfl, rfl⟩
  | ok loaded =>
    simp only [Session.run_bind, Session.run_printLine, Session.run_ofLogged,
      Session.run_printLines]
    exact ⟨rfl, rfl⟩

theorem configProse_endsLike (decls : Option Path) (colours : Bool) :
    EndsLike w (configProse colours decls settings properties)
      (.config (configTold settings properties decls w.files)) w.files := by
  obtain ⟨events, resolving⟩ := run_resolvedSettings settings properties w decls
  suffices ends : _ ∧ _ from ⟨ends.1, ends.2⟩
  simp only [configProse, configTold, Session.run_bind, resolving]
  cases listing decls settings properties w.files with
  | error fault => exact ⟨rfl, rfl⟩
  | ok resolved =>
    simp only [Session.run_bind, Session.run_printLine, Session.run_printLines]
    exact ⟨rfl, rfl⟩

/-- With lines for people, every command ends like its document and leaves the same files. -/
theorem session_endsLike (command : Command) (colours : Bool) :
    EndsLike w (command.session (.prose colours)) (command.told w.files)
      (command.left w.files) := by
  cases command with
  | generate decls outDir settings properties denyWarnings => exact generateProse_endsLike ..
  | validate decls settings properties denyWarnings => exact validateProse_endsLike ..
  | scan decls => exact scanProse_endsLike ..
  | config decls settings properties => exact configProse_endsLike ..

/-- In either output, the program ends with the number that the document calls for and leaves the
same files. -/
theorem ending_told (filter : LogFilter) (command : Command) (output : Output) :
    (Program.ending filter command output w).code = (command.told w.files).status.code ∧
      (Program.ending filter command output w).files = command.left w.files := by
  cases output with
  | prose colours =>
    rw [Program.ending_eq]
    exact ⟨(session_endsLike w command colours).code, (session_endsLike w command colours).files⟩
  | document =>
    rw [ending_document]
    exact ⟨rfl, rfl⟩

end Command

end HandlerWiring
