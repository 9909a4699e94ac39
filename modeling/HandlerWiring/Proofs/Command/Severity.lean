import HandlerWiring.Proofs.Command.Outputs

/-!
# Denied warnings

Denying warnings happens behind everything else: what is found, what is written and what is
reported stay, and only the severity of the diagnostics and the verdict change. So the document of
a run in which warnings are denied is a function of the document of the run in which they are not.
-/

namespace HandlerWiring

/-- The entry of a diagnostic that is taken for an error. -/
def DiagnosticEntry.escalated (d : DiagnosticEntry) : DiagnosticEntry := { d with severity := "error" }

/-- The document with every diagnostic taken for an error: it tells of success only if there is
none. Everything else is the same. -/
def Document.escalated : Document → Document
  | .generate d => .generate
    { d with
      success := d.success && d.diagnostics.isEmpty
      diagnostics := d.diagnostics.map DiagnosticEntry.escalated }
  | .validate d => .validate
    { d with
      success := d.success && d.diagnostics.isEmpty
      diagnostics := d.diagnostics.map DiagnosticEntry.escalated }
  | .scan d => .scan d
  | .config d => .config d

/-- Taking diagnostics for errors makes a run fail that has any. -/
theorem Document.success_escalated (d : Document) :
    d.escalated.success = false ↔ d.success = false ∨ d.diagnostics ≠ [] := by
  have verdict (success : Bool) (ds : List DiagnosticEntry) :
      (success && ds.isEmpty) = false ↔ success = false ∨ ds ≠ [] := by
    rw [Bool.and_eq_false_iff, List.isEmpty_eq_false_iff]
  cases d with
  | generate d => exact verdict d.success d.diagnostics
  | validate d => exact verdict d.success d.diagnostics
  | scan d => exact ⟨.inl, fun h => h.resolve_right fun some => some rfl⟩
  | config d => exact ⟨.inl, fun h => h.resolve_right fun some => some rfl⟩

namespace Command

/-- The command with warnings denied or not, if it can deny them. -/
def denying (denyWarnings : Bool) : Command → Command
  | .generate decls outDir settings properties _ =>
    .generate decls outDir settings properties denyWarnings
  | .validate decls settings properties _ => .validate decls settings properties denyWarnings
  | .scan decls => .scan decls
  | .config decls settings properties => .config decls settings properties

/-- The entries of diagnostics are escalated with the diagnostics. -/
theorem entries_taken (ds : List Diagnostic) :
    (taken true ds).map DiagnosticEntry.ofDiagnostic =
      ((taken false ds).map DiagnosticEntry.ofDiagnostic).map .escalated := by
  rw [taken, if_pos rfl, taken, if_neg Bool.false_ne_true, List.map_map, List.map_map]
  rfl

/-- A run in which warnings are denied succeeds if the same run succeeds otherwise and has no
diagnostic. -/
theorem verdict_taken {ds : List Diagnostic} (warns : ∀ d ∈ ds, d.severity = .warning) :
    (ExitStatus.ofDiagnostics (taken true ds) == .success) =
      ((ExitStatus.ofDiagnostics (taken false ds) == .success) &&
        ((taken false ds).map DiagnosticEntry.ofDiagnostic).isEmpty) := by
  have lenient : ExitStatus.ofDiagnostics (taken false ds) = .success :=
    (ExitStatus.ofDiagnostics_taken warns false).mpr fun both => Bool.false_ne_true both.1
  rw [lenient]
  cases ds with
  | nil => rfl
  | cons d rest => rfl

/-- Warnings that are not denied stay warnings. -/
theorem severity_taken {ds : List Diagnostic} (warns : ∀ d ∈ ds, d.severity = .warning) :
    ∀ d ∈ taken false ds, d.severity = .warning := by
  rw [taken, if_neg Bool.false_ne_true]
  exact warns

/-- The entries of warnings have the severity of warnings. -/
theorem severity_entries {ds : List Diagnostic} (warns : ∀ d ∈ ds, d.severity = .warning)
    {entry : DiagnosticEntry}
    (among : entry ∈ (taken false ds).map DiagnosticEntry.ofDiagnostic) :
    entry.severity = "warning" := by
  obtain ⟨d, there, rfl⟩ := List.mem_map.mp among
  exact congrArg Severity.text (severity_taken warns d there)

/-- A validation only warns. -/
theorem warns_validation {decls : Path} {settings : Option Path} {properties : List Property}
    {files : FileSystem} {found : Report × String}
    (checked : validation decls settings properties files = .ok found) :
    ∀ d ∈ found.1.diagnostics, d.severity = .warning := by
  unfold validation at checked
  split at checked
  · cases checked
  split at checked
  · cases checked
  · cases checked
    exact Report.ofMethods_warns _ _

/-- The document of a run in which warnings are denied is that of the run in which they are not,
with every diagnostic taken for an error. -/
theorem told_denying (command : Command) (files : FileSystem) :
    (command.denying true).told files = ((command.denying false).told files).escalated := by
  cases command with
  | generate decls outDir settings properties denyWarnings =>
    simp only [denying, told, Document.escalated, generateTold]
    cases LoadedSnapshot.found files decls with
    | error fault => rfl
    | ok loaded =>
      dsimp only
      cases Sources.found files loaded.snapshot.options settings properties with
      | error fault => rfl
      | ok sources =>
        dsimp only
        cases ((loaded.snapshot.generate sources).value.placed outDir files).1 with
        | error fault => rfl
        | ok path =>
          simp only [generateDocument, entries_taken,
            verdict_taken (loaded.snapshot.generate_warns sources)]
  | validate decls settings properties denyWarnings =>
    simp only [denying, told, Document.escalated, validateTold]
    cases checked : validation decls settings properties files with
    | error fault => rfl
    | ok found => simp only [validateDocument, entries_taken, verdict_taken (warns_validation checked)]
  | scan decls => rfl
  | config decls settings properties => rfl

/-- Where warnings are not denied, every diagnostic is a warning. -/
theorem severity_told (command : Command) (files : FileSystem) {entry : DiagnosticEntry}
    (among : entry ∈ ((command.denying false).told files).diagnostics) :
    entry.severity = "warning" := by
  cases command with
  | generate decls outDir settings properties denyWarnings =>
    simp only [denying, told, Document.diagnostics, generateTold] at among
    split at among
    · cases among
    split at among
    · cases among
    next loaded _ _ sources _ =>
    split at among
    · cases among
    · exact severity_entries (loaded.snapshot.generate_warns sources) among
  | validate decls settings properties denyWarnings =>
    simp only [denying, told, Document.diagnostics, validateTold] at among
    split at among
    · cases among
    · next report sourceHash checked => exact severity_entries (warns_validation checked) among
  | scan decls => cases among
  | config decls settings properties => cases among

/-- Denying warnings does not change the files that are left. -/
theorem left_denying (command : Command) (denyWarnings : Bool) (files : FileSystem) :
    (command.denying denyWarnings).left files = command.left files := by
  cases command with
  | generate decls outDir settings properties denyWarnings => rfl
  | validate decls settings properties denyWarnings => rfl
  | scan decls => rfl
  | config decls settings properties => rfl

end Command

/-- Denying warnings changes the severity and the verdict and nothing else. For every command and
all files, with and without warnings denied the same files are left, in either output. The document
of the run in which warnings are denied is that of the other run with every diagnostic an error,
where the other has only warnings, and with success only if the other tells of it and reports
nothing. The number is one exactly if the other run's is one or a diagnostic is reported. Nor does
a pass or a validation ever give anything but warnings, printed or not, unless they are denied. -/
theorem denied_warnings_change_severity (filter : LogFilter) (command : Command) (w : World) :
    let ending (denyWarnings : Bool) (output : Output) :=
      Program.ending filter (command.denying denyWarnings) output w
    let document := (command.denying false).told w.files
    (ending false .document).printed = w.printed ++ document.text ∧
      (ending true .document).printed = w.printed ++ document.escalated.text ∧
      (∀ entry ∈ document.diagnostics, entry.severity = "warning") ∧
      (∀ (s : Snapshot) sources, ∀ d ∈ Command.taken false (s.generate sources).value.diagnostics,
        d.severity = .warning) ∧
      (∀ strictness methods,
        ∀ d ∈ Command.taken false (Report.ofMethods strictness methods).value.diagnostics,
          d.severity = .warning) ∧
      (document.escalated.success = false ↔
        document.success = false ∨ document.diagnostics ≠ []) ∧
      ∀ output, (ending true output).files = (ending false output).files ∧
        ((ending true output).code = 1 ↔
          (ending false output).code = 1 ∨ document.diagnostics ≠ []) := by
  intro ending document
  have escalates := command.told_denying w.files
  refine ⟨?_, ?_, fun entry => command.severity_told w.files,
    fun s sources => Command.severity_taken (s.generate_warns sources),
    fun strictness methods => Command.severity_taken (Report.ofMethods_warns strictness methods),
    document.success_escalated, ?_⟩
  · exact congrArg Program.Ending.printed (Command.ending_document w filter _)
  · rw [← escalates]
    exact congrArg Program.Ending.printed (Command.ending_document w filter _)
  · intro output
    obtain ⟨code, files⟩ := Command.ending_told w filter (command.denying false) output
    obtain ⟨code', files'⟩ := Command.ending_told w filter (command.denying true) output
    constructor
    · exact files'.trans (((command.left_denying true w.files).trans
        (command.left_denying false w.files).symm).trans files.symm)
    · rw [code, code', escalates, Document.code_status_eq_one_iff, Document.code_status_eq_one_iff,
        Document.success_escalated]

end HandlerWiring
