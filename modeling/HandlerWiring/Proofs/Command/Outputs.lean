import HandlerWiring.Proofs.Command.Document
import HandlerWiring.Proofs.Command.Printed

/-!
# Lines for people and documents are two views of one run

The output that is asked for changes what is printed and nothing else: the number that the program
ends with and the files that it leaves are the same. The document says whether the run succeeded,
and it did exactly if the inputs were found, the unit was written where there was one, and no
diagnostic stood against a run in which warnings are denied.
-/

namespace HandlerWiring

/-- Warnings do not count against a run unless they are denied. -/
theorem ExitStatus.ofDiagnostics_taken {ds : List Diagnostic}
    (warns : ∀ d ∈ ds, d.severity = .warning) (denyWarnings : Bool) :
    ofDiagnostics (Command.taken denyWarnings ds) = .success ↔ ¬(denyWarnings = true ∧ ds ≠ []) := by
  cases denyWarnings with
  | false =>
    have quiet : ds.any (·.severity == .error) = false := by
      rw [List.any_eq_false]
      intro d among
      rw [warns d among]
      decide
    rw [Command.taken, if_neg Bool.false_ne_true, ofDiagnostics, quiet]
    exact ⟨fun _ both => Bool.false_ne_true both.1, fun _ => rfl⟩
  | true =>
    cases ds with
    | nil => exact ⟨fun _ both => both.2 rfl, fun _ => rfl⟩
    | cons d rest =>
      constructor
      · intro fails
        cases fails
      · intro quiet
        exact absurd ⟨rfl, List.cons_ne_nil d rest⟩ quiet

namespace Command

/-- Diagnostics are neither lost nor made by taking them for errors. -/
theorem taken_eq_nil_iff {denyWarnings : Bool} {ds : List Diagnostic} :
    taken denyWarnings ds = [] ↔ ds = [] := by
  cases denyWarnings with
  | false => exact Iff.rfl
  | true => exact List.map_eq_nil_iff

/-- Whether a command takes warnings for errors. -/
def deniesWarnings : Command → Bool
  | .generate _ _ _ _ denyWarnings => denyWarnings
  | .validate _ _ _ denyWarnings => denyWarnings
  | .scan _ | .config .. => false

/-- The inputs of a command are found in some files. -/
def InputsLoad (files : FileSystem) : Command → Prop
  | .generate decls _ settings properties _ | .validate decls settings properties _ =>
    ∃ loaded sources, InputsFound files decls settings properties loaded sources
  | .scan decls => ∃ loaded, LoadedSnapshot.found files decls = .ok loaded
  | .config decls settings properties =>
    ∃ options sources, optionsFound files decls = .ok options ∧
      Sources.found files options settings properties = .ok sources

/-- The unit of a command that has one is written. -/
def UnitWritten (files : FileSystem) : Command → Prop
  | .generate decls outDir settings properties _ =>
    ∀ loaded sources, InputsFound files decls settings properties loaded sources →
      ∀ u, (loaded.snapshot.generate sources).value.unit = some u →
        ∃ path, (u.placed outDir files).1 = .ok path
  | .validate .. | .scan _ | .config .. => True

variable {files : FileSystem} {decls outDir : Path} {settings : Option Path}
  {properties : List Property} {loaded : LoadedSnapshot} {sources : Sources}

/-! ## Found inputs -/

theorem generateTold_of_written {outDir : Path} {path : Option Path} (denyWarnings : Bool)
    (found : InputsFound files decls settings properties loaded sources)
    (written : ((loaded.snapshot.generate sources).value.placed outDir files).1 = .ok path) :
    generateTold decls outDir settings properties denyWarnings files =
      generateDocument loaded.sourceHash (loaded.snapshot.generate sources).value path
        (taken denyWarnings (loaded.snapshot.generate sources).value.diagnostics) := by
  simp only [generateTold, found.loading, found.assembling, written]

theorem generateTold_of_unwritten {outDir : Path} {fault : WriteFault} (denyWarnings : Bool)
    (found : InputsFound files decls settings properties loaded sources)
    (failed : ((loaded.snapshot.generate sources).value.placed outDir files).1 = .error fault) :
    generateTold decls outDir settings properties denyWarnings files =
      .failure fault.entry (some loaded.sourceHash) := by
  simp only [generateTold, found.loading, found.assembling, failed]

theorem generateTold_of_not_found (outDir : Path) (denyWarnings : Bool)
    (fails : ¬∃ loaded sources, InputsFound files decls settings properties loaded sources) :
    ∃ error sourceHash, generateTold decls outDir settings properties denyWarnings files =
      .failure error sourceHash := by
  unfold generateTold
  split
  · exact ⟨_, _, rfl⟩
  next loaded loading =>
  split
  · exact ⟨_, _, rfl⟩
  next sources assembling => exact absurd ⟨loaded, sources, loading, assembling⟩ fails

theorem validation_of_found (found : InputsFound files decls settings properties loaded sources) :
    validation decls settings properties files =
      .ok ((Report.ofMethods (Strictness.resolve sources).value loaded.snapshot.methods).value,
        loaded.sourceHash) := by
  simp only [validation, found.loading, found.assembling]

theorem validation_of_not_found
    (fails : ¬∃ loaded sources, InputsFound files decls settings properties loaded sources) :
    ∃ fault, validation decls settings properties files = .error fault := by
  unfold validation
  split
  · exact ⟨_, rfl⟩
  next loaded loading =>
  split
  · exact ⟨_, rfl⟩
  next sources assembling => exact absurd ⟨loaded, sources, loading, assembling⟩ fails

/-! ## Success -/

/-- The unit of a pass is placed exactly if there is none or it can be. -/
theorem placed_isOk_iff (outcome : Outcome) (outDir : Path) (files : FileSystem) :
    (∃ path, (outcome.placed outDir files).1 = .ok path) ↔
      ∀ u, outcome.unit = some u → ∃ path, (u.placed outDir files).1 = .ok path := by
  cases present : outcome.unit with
  | none =>
    rw [Outcome.placed_of_none present]
    exact ⟨fun _ u has => (nomatch has), fun _ => ⟨none, rfl⟩⟩
  | some u =>
    rw [Outcome.placed_of_some present]
    constructor
    · rintro ⟨path, written⟩ _ ⟨⟩
      cases placed : (u.placed outDir files).1 with
      | error fault =>
        rw [placed] at written
        cases written
      | ok place => exact ⟨place, rfl⟩
    · intro all
      obtain ⟨path, written⟩ := all u rfl
      exact ⟨some path, by rw [written]; rfl⟩

/-- `generate` succeeds if it finds its inputs and writes its unit, and nothing is denied. -/
theorem success_generateTold (denyWarnings : Bool) (files : FileSystem) :
    let command := Command.generate decls outDir settings properties denyWarnings
    (command.told files).success = true ↔
      command.InputsLoad files ∧ command.UnitWritten files ∧
        ¬(denyWarnings = true ∧ (command.told files).diagnostics ≠ []) := by
  simp only [told, Document.success, Document.diagnostics, InputsLoad, UnitWritten]
  by_cases loads : ∃ loaded sources, InputsFound files decls settings properties loaded sources
  · obtain ⟨loaded, sources, found⟩ := loads
    have written := placed_isOk_iff (loaded.snapshot.generate sources).value outDir files
    cases placing : ((loaded.snapshot.generate sources).value.placed outDir files).1 with
    | error fault =>
      rw [placing] at written
      rw [generateTold_of_unwritten denyWarnings found placing]
      refine ⟨fun told => absurd told Bool.false_ne_true, ?_⟩
      rintro ⟨-, all, -⟩
      obtain ⟨_, wrote⟩ := written.mpr (all loaded sources found)
      cases wrote
    | ok path =>
      rw [placing] at written
      have warns := loaded.snapshot.generate_warns sources
      rw [generateTold_of_written denyWarnings found placing]
      simp only [generateDocument, beq_iff_eq, ExitStatus.ofDiagnostics_taken warns, ne_eq,
        List.map_eq_nil_iff, taken_eq_nil_iff]
      refine ⟨fun quiet => ⟨⟨loaded, sources, found⟩, ?_, quiet⟩, fun all => all.2.2⟩
      intro loaded' sources' found'
      obtain ⟨rfl, rfl⟩ := found.unique found'
      exact written.mp ⟨path, rfl⟩
  · obtain ⟨error, sourceHash, failed⟩ := generateTold_of_not_found outDir denyWarnings loads
    rw [failed]
    exact ⟨fun told => absurd told Bool.false_ne_true, fun all => absurd all.1 loads⟩

/-- `validate` succeeds if it finds its inputs and nothing is denied. -/
theorem success_validateTold (denyWarnings : Bool) (files : FileSystem) :
    let command := Command.validate decls settings properties denyWarnings
    (command.told files).success = true ↔
      command.InputsLoad files ∧ ¬(denyWarnings = true ∧ (command.told files).diagnostics ≠ []) := by
  simp only [told, Document.success, Document.diagnostics, validateTold, InputsLoad]
  by_cases loads : ∃ loaded sources, InputsFound files decls settings properties loaded sources
  · obtain ⟨loaded, sources, found⟩ := loads
    have warns := Report.ofMethods_warns (Strictness.resolve sources).value loaded.snapshot.methods
    rw [validation_of_found found]
    simp only [validateDocument, beq_iff_eq, ExitStatus.ofDiagnostics_taken warns, ne_eq,
      List.map_eq_nil_iff, taken_eq_nil_iff]
    exact ⟨fun quiet => ⟨⟨loaded, sources, found⟩, quiet⟩, fun all => all.2⟩
  · obtain ⟨fault, failed⟩ := validation_of_not_found loads
    rw [failed]
    exact ⟨fun told => absurd told Bool.false_ne_true, fun all => absurd all.1 loads⟩

/-- `scan` succeeds if it finds the snapshot. -/
theorem success_scanTold (files : FileSystem) :
    (scanTold decls files).success = true ↔ (Command.scan decls).InputsLoad files := by
  unfold scanTold
  cases loading : LoadedSnapshot.found files decls with
  | error fault =>
    refine ⟨fun told => absurd told Bool.false_ne_true, ?_⟩
    rintro ⟨_, found⟩
    cases loading.symm.trans found
  | ok loaded => exact ⟨fun _ => ⟨loaded, loading⟩, fun _ => rfl⟩

/-- `config` succeeds if it finds its inputs. -/
theorem success_configTold (decls : Option Path) (files : FileSystem) :
    (configTold settings properties decls files).success = true ↔
      (Command.config decls settings properties).InputsLoad files := by
  unfold configTold listing
  cases loading : optionsFound files decls with
  | error fault =>
    refine ⟨fun told => absurd told Bool.false_ne_true, ?_⟩
    rintro ⟨_, _, found, -⟩
    cases loading.symm.trans found
  | ok options =>
    dsimp only
    cases assembling : Sources.found files options settings properties with
    | error fault =>
      refine ⟨fun told => absurd told Bool.false_ne_true, ?_⟩
      rintro ⟨_, _, found, combined⟩
      cases loading.symm.trans found
      cases assembling.symm.trans combined
    | ok sources => exact ⟨fun _ => ⟨options, sources, loading, assembling⟩, fun _ => rfl⟩

/-- A command succeeds exactly if its inputs are found, its unit is written if it has one, and no
diagnostic is reported while warnings are denied. -/
theorem success_told (command : Command) (files : FileSystem) :
    (command.told files).success = true ↔
      command.InputsLoad files ∧ command.UnitWritten files ∧
        ¬(command.deniesWarnings = true ∧ (command.told files).diagnostics ≠ []) := by
  cases command with
  | generate decls outDir settings properties denyWarnings =>
    exact success_generateTold denyWarnings files
  | validate decls settings properties denyWarnings =>
    refine (success_validateTold denyWarnings files).trans ⟨?_, fun all => ⟨all.1, all.2.2⟩⟩
    exact fun both => ⟨both.1, trivial, both.2⟩
  | scan decls =>
    refine (success_scanTold files).trans ⟨fun loads => ⟨loads, trivial, ?_⟩, And.left⟩
    exact fun denied => Bool.false_ne_true denied.1
  | config decls settings properties =>
    refine (success_configTold decls files).trans ⟨fun loads => ⟨loads, trivial, ?_⟩, And.left⟩
    exact fun denied => Bool.false_ne_true denied.1

end Command

/-- Lines for people and documents are two views of one run. For every command and all files, the
program ends with the same number, zero or one, and leaves the same files in either output. Asked
for a document the command never fails itself: it prints the document, which tells of success
exactly if the number is zero. And the number is zero exactly if the inputs are found, the unit, if
there is one, is written, and it is not the case that warnings are denied and a diagnostic is
reported. -/
theorem outputs_are_views_of_one_run (filter : LogFilter) (command : Command) (w : World) :
    let told := Program.ending filter command .document w
    let document := command.told w.files
    (∀ colours, let shown := Program.ending filter command (.prose colours) w
      shown.code = told.code ∧ shown.files = told.files) ∧
      (told.code = 0 ∨ told.code = 1) ∧
      (∃ status, ((command.session .document).run w).1 = .ok status) ∧
      told.printed = w.printed ++ document.text ∧
      (document.success = true ↔ told.code = 0) ∧
      (told.code = 0 ↔ command.InputsLoad w.files ∧ command.UnitWritten w.files ∧
        ¬(command.deniesWarnings = true ∧ document.diagnostics ≠ [])) := by
  intro told document
  have ends : told.code = document.status.code := (Command.ending_told w filter command _).1
  have succeeds : document.success = true ↔ told.code = 0 := by
    rw [ends, document.code_status_eq_zero_iff]
  refine ⟨?views, ?number, ⟨_, (Command.session_tells w command).result⟩, ?printed, succeeds,
    succeeds.symm.trans (command.success_told w.files)⟩
  case views =>
    intro colours shown
    obtain ⟨code, files⟩ := Command.ending_told w filter command (.prose colours)
    exact ⟨code.trans ends.symm, files.trans (Command.ending_told w filter command _).2.symm⟩
  case number =>
    rw [ends]
    cases document.status with
    | success => exact .inl rfl
    | failure => exact .inr rfl
  case printed => exact congrArg Program.Ending.printed (Command.ending_document w filter command)

end HandlerWiring
