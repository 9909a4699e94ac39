import HandlerWiring.Proofs.Command.Generate

/-!
# What the commands print

A command whose inputs are found comes down to its printed text, the files it leaves and its
status, each a function of the inputs. With lines for people and with a document for machines the
text is made of the same findings: the registrations, the report, the outcome of the pass, the
resolved settings.
-/

namespace HandlerWiring

open Text Session

/-- The snapshot and the two sources that the inputs of a command come to. -/
structure InputsFound (files : FileSystem) (decls : Path) (settings : Option Path)
    (properties : List Property) (loaded : LoadedSnapshot) (sources : Sources) : Prop where
  loading : LoadedSnapshot.found files decls = .ok loaded
  assembling : Sources.found files loaded.snapshot.options settings properties = .ok sources

/-- Without settings and properties, the inputs are a stored snapshot and its options, twice. -/
theorem InputsFound.of_stored {files : FileSystem} {decls : Path} {s : Snapshot}
    (stored : files.read decls = .ok (Snapshot.form.pretty s)) :
    InputsFound files decls none [] ⟨s, Digest.ofText (Snapshot.form.pretty s)⟩ s.ownSources :=
  ⟨LoadedSnapshot.found_of_stored stored, Sources.found_of_options files s.options⟩

/-- The inputs are found in one way. -/
theorem InputsFound.unique {files : FileSystem} {decls : Path} {settings : Option Path}
    {properties : List Property} {loaded loaded' : LoadedSnapshot} {sources sources' : Sources}
    (found : InputsFound files decls settings properties loaded sources)
    (found' : InputsFound files decls settings properties loaded' sources') :
    loaded' = loaded ∧ sources' = sources := by
  have same : loaded' = loaded := Except.ok.inj (found'.loading.symm.trans found.loading)
  subst same
  exact ⟨rfl, Except.ok.inj (found'.assembling.symm.trans found.assembling)⟩

/-- The world in which a snapshot is the only file. -/
def Sample.worldOf (s : Snapshot) : World :=
  .ofFiles ⟨[(["decls.json"], .text (Snapshot.form.pretty s))], []⟩

theorem Sample.worldOf_found (s : Snapshot) :
    InputsFound (Sample.worldOf s).files ⟨"decls.json"⟩ none []
      ⟨s, Digest.ofText (Snapshot.form.pretty s)⟩ s.ownSources :=
  .of_stored rfl

namespace Command

/-- What `scan` prints about a snapshot. -/
def scanText (decls : Path) (loaded : LoadedSnapshot) : Output → String
  | .prose colours =>
    textOfLines
      ([styled colours .boldCyan "Scanning:" ++ " " ++ decls.text,
        sourceLine colours loaded.sourceHash] ++
      registrationLines colours loaded.snapshot.types.length
        (Registration.scan loaded.snapshot.types).value)
  | .document =>
    textOfLines [ScanDocument.form.pretty
      (scanDocument loaded.sourceHash (Registration.scan loaded.snapshot.types).value)]

/-- What `validate` prints about a report, with the diagnostics as they are taken. -/
def validateText (decls : Path) (sourceHash : String) (r : Report) (ds : List Diagnostic) :
    Output → String
  | .prose colours =>
    textOfLines
      ([styled colours .boldCyan "Validating:" ++ " " ++ decls.text,
        sourceLine colours sourceHash] ++ reportLines colours r ds)
  | .document => textOfLines [ValidateDocument.form.pretty (validateDocument sourceHash r ds)]

/-- What `generate` prints about a generation, with the diagnostics as they are taken. -/
def generateText (decls : Path) (milliseconds : Nat) (g : Generation) (ds : List Diagnostic) :
    Output → String
  | .prose colours =>
    textOfLines
      ([styled colours .boldCyan "Generating:" ++ " " ++ decls.text] ++
        foundLines colours g.loaded.sourceHash g.outcome ds ++
        [unitLine colours milliseconds g.outcome g.path] ++ rejectedLines colours ds)
  | .document =>
    textOfLines [GenerateDocument.form.pretty
      (generateDocument g.loaded.sourceHash g.outcome g.path ds)]

/-- What `config` prints about the settings. -/
def configText (resolved : List Resolved) : Output → String
  | .prose colours =>
    textOfLines (styled colours .boldCyan "Settings:" :: resolved.map (settingLine colours))
  | .document => textOfLines [ConfigDocument.form.pretty (configDocument resolved)]

variable {w : World} {decls outDir : Path} {settings : Option Path} {properties : List Property}
  {loaded : LoadedSnapshot} {sources : Sources}

/-- A snapshot that is found is scanned. -/
theorem ending_scan (filter : LogFilter) (output : Output)
    (loading : LoadedSnapshot.found w.files decls = .ok loaded) :
    Program.ending filter (.scan decls) output w =
      ⟨0, w.files, w.printed ++ scanText decls loaded output⟩ := by
  rw [Program.ending_eq]
  cases output with
  | prose colours =>
    simp only [session, scanProse, run_bind, run_printLine, LoadedSnapshot.run_load,
      World.files_printing, World.files_reporting, loading, run_ofLogged, run_printLines, run_pure,
      World.printed_printing, World.printed_reporting, scanText, textOfLines_append, textOfLines,
      String.append_empty, String.append_assoc]
    rfl
  | document =>
    simp only [session, scanJson, run_bind, LoadedSnapshot.run_load, loading, run_ofLogged,
      printDocument, run_printLine, run_pure, World.files_printing, World.files_reporting,
      World.printed_printing, World.printed_reporting, scanText, textOfLines, String.append_empty]
    rfl

/-- A validation whose inputs are found reports on the marked methods under the resolved
strictness. -/
theorem ending_validate (filter : LogFilter) (output : Output) (denyWarnings : Bool)
    (found : InputsFound w.files decls settings properties loaded sources) :
    let report :=
      (Report.ofMethods (Strictness.resolve sources).value loaded.snapshot.methods).value
    let diagnostics := taken denyWarnings report.diagnostics
    Program.ending filter (.validate decls settings properties denyWarnings) output w =
      ⟨(ExitStatus.ofDiagnostics diagnostics).code, w.files,
        w.printed ++ validateText decls loaded.sourceHash report diagnostics output⟩ := by
  intro report diagnostics
  rw [Program.ending_eq]
  cases output with
  | prose colours =>
    simp only [session, validateProse, checkedSnapshot, run_bind, run_printLine,
      LoadedSnapshot.run_load, World.files_printing, World.files_reporting, found.loading,
      Sources.run_assemble, found.assembling, run_ofLogged, run_reportAll, run_printLines, run_pure,
      World.printed_printing, World.printed_reporting, validateText, textOfLines_append,
      textOfLines, String.append_empty, String.append_assoc]
    rfl
  | document =>
    simp only [session, validateJson, checkedSnapshot, run_bind, LoadedSnapshot.run_load,
      World.files_reporting, found.loading, Sources.run_assemble, found.assembling, run_ofLogged,
      run_reportAll, printDocument, run_printLine, run_pure, World.files_printing,
      World.printed_printing, World.printed_reporting, validateText, textOfLines,
      String.append_empty]
    rfl

/-- A list of settings whose inputs are found gives the value of every setting. -/
theorem ending_config (filter : LogFilter) (output : Output)
    (found : InputsFound w.files decls settings properties loaded sources) :
    Program.ending filter (.config (some decls) settings properties) output w =
      ⟨0, w.files, w.printed ++ configText (Setting.resolveAll sources).value output⟩ := by
  rw [Program.ending_eq]
  cases output with
  | prose colours =>
    simp only [session, configProse, resolvedSettings, loadOptions, run_bind, run_printLine,
      LoadedSnapshot.run_load, World.files_printing, World.files_reporting, found.loading,
      Sources.run_assemble, found.assembling, run_ofLogged, run_printLines, run_pure,
      World.printed_printing, World.printed_reporting, configText, textOfLines, String.append_assoc]
    rfl
  | document =>
    simp only [session, configJson, resolvedSettings, loadOptions, run_bind,
      LoadedSnapshot.run_load, World.files_reporting, found.loading, Sources.run_assemble,
      found.assembling, run_ofLogged, printDocument, run_printLine, run_pure, World.files_printing,
      World.printed_printing, World.printed_reporting, configText, textOfLines,
      String.append_empty]
    rfl

/-- A generation whose inputs are found and whose unit is written, if there is one, tells of the
outcome of the pass. -/
theorem ending_generate_of_found (filter : LogFilter) (output : Output) (denyWarnings : Bool)
    (found : InputsFound w.files decls settings properties loaded sources) {path : Option Path}
    (written : ((loaded.snapshot.generate sources).value.placed outDir w.files).1 = .ok path) :
    let outcome := (loaded.snapshot.generate sources).value
    let diagnostics := taken denyWarnings outcome.diagnostics
    Program.ending filter (.generate decls outDir settings properties denyWarnings) output w =
      ⟨(ExitStatus.ofDiagnostics diagnostics).code, (outcome.placed outDir w.files).2,
        w.printed ++ generateText decls w.elapsed ⟨loaded, outcome, path⟩ diagnostics output⟩ := by
  intro outcome diagnostics
  rw [Program.ending_eq]
  cases output with
  | prose colours =>
    simp only [session, generateProse, run_bind, run_printLine,
      LoadedSnapshot.run_load, World.files_printing, World.files_reporting, found.loading,
      Sources.run_assemble, found.assembling, run_ofLogged, run_printLines, run_elapsed,
      Outcome.run_writeInto, written, run_pure,
      World.printed_printing, World.printed_reporting, World.printed_holding, World.files_holding,
      generateText, textOfLines_append, textOfLines, String.append_empty, String.append_assoc]
    rfl
  | document =>
    simp only [session, generateJson, run_bind, LoadedSnapshot.run_load, World.files_reporting,
      found.loading, Sources.run_assemble, found.assembling, run_ofLogged, Outcome.run_writeInto,
      written, printDocument, run_printLine, run_pure, World.files_printing,
      World.printed_printing, World.printed_reporting, World.printed_holding, World.files_holding,
      generateText, textOfLines, String.append_empty]
    rfl

end Command

end HandlerWiring
