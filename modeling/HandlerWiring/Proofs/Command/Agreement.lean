import HandlerWiring.Proofs.Command.Printed

/-!
# The commands tell one story

Each of the commands `scan`, `validate` and `generate` puts its document together in its own way.
On the same inputs their documents agree: the registrations are those of one scan, and the report
is one report under one strictness, except that `generate` does not look at the methods of a
snapshot that has nothing to register. The unit of `generate` completes the extension points that
`validate` lists.
-/

namespace HandlerWiring

/-- A run in which a command printed a document. -/
def Program.Ending.ofDocument (w : World) (files : FileSystem) (form : Json.Form α) (document : α)
    (status : ExitStatus) : Ending :=
  { code := status.code, files
    printed := w.printed ++ Session.textOfLines [form.pretty document] }

namespace Snapshot

/-- The marked methods that some rule rejects, in declaration order. -/
def rejectedMethods (snapshot : Snapshot) (s : Strictness) : List Method :=
  snapshot.markedMethods.filter fun m => !m.isAccepted s

/-- A report has one diagnostic for each rejected method, in declaration order. -/
theorem diagnostics_rejectedMethods (snapshot : Snapshot) (s : Strictness) :
    (snapshot.rejectedMethods s).map (Method.validate s) =
      (Report.ofMethods s snapshot.methods).value.diagnostics.map .error := by
  rw [Report.value_ofMethods]
  unfold rejectedMethods markedMethods
  dsimp only
  induction snapshot.methods.filter Method.isExtensionPoint with
  | nil => rfl
  | cons m rest ih =>
    rw [List.filter_cons, List.filterMap_cons, Method.rejection?, Method.isAccepted]
    cases result : m.validate s with
    | ok p => exact ih
    | error d =>
      change Method.validate s m :: List.map (Method.validate s) _ = _
      rw [result, ih]
      rfl

/-- The unit of a pass completes something exactly if there is a registration and a marked method
is accepted, and then it is named after the first extension point. -/
theorem completion_generate (s : Snapshot) (sources : Sources) :
    let points := s.acceptedPoints (Strictness.resolve sources).value
    ((∃ u, (s.generate sources).value.unit = some u ∧ u.kind = .completion) ↔
        (Registration.scan s.types).value ≠ [] ∧ points ≠ []) ∧
      ∀ u, (s.generate sources).value.unit = some u → u.kind = .completion →
        ∃ p, points.head? = some p ∧ u.hintName = p.qualifiedName ++ ".g.cs" := by
  by_cases nothing : (Registration.scan s.types).value = []
  · rw [(generate_of_nil sources nothing).2]
    refine ⟨⟨?_, fun both => absurd nothing both.1⟩, ?_⟩
    · rintro ⟨u, has, -⟩
      cases has
    · intro u has
      cases has
  · rw [unit_generate ((Registration.scan_ne_nil_iff s.types).mp nothing) sources]
    cases s.acceptedPoints (Strictness.resolve sources).value with
    | nil =>
      refine ⟨⟨?_, fun both => absurd rfl both.2⟩, ?_⟩
      · rintro ⟨u, has, kind⟩
        cases has
        cases kind
      · intro u has kind
        cases has
        cases kind
    | cons first rest =>
      refine ⟨⟨fun _ => ⟨nothing, List.cons_ne_nil first rest⟩, fun _ => ⟨_, rfl, rfl⟩⟩, ?_⟩
      intro u has _
      cases has
      exact ⟨first, rfl, rfl⟩

end Snapshot

/-- Only a completion is called one. -/
theorem UnitKind.text_eq_completion {kind : UnitKind} :
    kind.text = "completion" ↔ kind = .completion := by
  cases kind with
  | completion => exact ⟨fun _ => rfl, fun _ => rfl⟩
  | synthesized => exact ⟨fun same => absurd same (by decide), fun same => nomatch same⟩

/-- The document of a pass whose unit was placed tells of a completion exactly if the pass has
one, under the same name. -/
theorem Command.completion_generateDocument {outcome : Outcome} {directory : Path}
    {files : FileSystem} {path : Option Path}
    (written : (outcome.placed directory files).1 = .ok path) (sourceHash : String)
    (diagnostics : List Diagnostic) (name : String) :
    (∃ u, (generateDocument sourceHash outcome path diagnostics).unit = some u ∧
        u.kind = "completion" ∧ u.hintName = name) ↔
      ∃ u, outcome.unit = some u ∧ u.kind = .completion ∧ u.hintName = name := by
  unfold generateDocument
  cases present : outcome.unit with
  | none => exact ⟨fun ⟨_, has, _⟩ => (nomatch has), fun ⟨_, has, _⟩ => (nomatch has)⟩
  | some u =>
    rw [Outcome.placed_of_some present] at written
    cases placed : (u.placed directory files).1 with
    | error fault =>
      rw [placed] at written
      cases written
    | ok place =>
      rw [placed] at written
      cases written
      constructor
      · rintro ⟨_, ⟨⟩, kind, same⟩
        exact ⟨u, rfl, UnitKind.text_eq_completion.mp kind, same⟩
      · rintro ⟨_, ⟨⟩, kind, same⟩
        exact ⟨_, rfl, UnitKind.text_eq_completion.mpr kind, same⟩

/-- The commands tell one story. Where the inputs are found and the unit of the pass, if it has
one, is written, each of the three commands prints a document. `scan` and `generate` list the same
registrations. If there are any, `validate` and `generate` report the same diagnostics and end
alike; if there is none, `generate` reports nothing and ends well. In either case `validate` has
one diagnostic for each rejected method. The unit is a completion exactly if there is a
registration and an extension point, and is then named after the first one that `validate`
lists. -/
theorem commands_tell_one_story (filter : LogFilter) (denyWarnings : Bool) {w : World}
    {decls outDir : Path} {settings : Option Path} {properties : List Property}
    {loaded : LoadedSnapshot} {sources : Sources} {path : Option Path}
    (found : InputsFound w.files decls settings properties loaded sources)
    (written : ((loaded.snapshot.generate sources).value.placed outDir w.files).1 = .ok path) :
    let strictness := (Strictness.resolve sources).value
    ∃ (scanned : ScanDocument) (validated : ValidateDocument) (generated : GenerateDocument)
      (validating generating : ExitStatus) (after : FileSystem),
      Program.ending filter (.scan decls) .document w =
          .ofDocument w w.files ScanDocument.form scanned .success ∧
        Program.ending filter (.validate decls settings properties denyWarnings) .document w =
          .ofDocument w w.files ValidateDocument.form validated validating ∧
        Program.ending filter (.generate decls outDir settings properties denyWarnings) .document w =
          .ofDocument w after GenerateDocument.form generated generating ∧
        scanned.registrations = generated.registrations ∧
        (generated.registrations ≠ [] →
          generated.diagnostics = validated.diagnostics ∧ generating = validating) ∧
        (generated.registrations = [] → generated.diagnostics = [] ∧ generating = .success) ∧
        (∃ rejections : List Diagnostic,
          rejections.map .error =
              (loaded.snapshot.rejectedMethods strictness).map (Method.validate strictness) ∧
            validated.diagnostics =
              (Command.taken denyWarnings rejections).map DiagnosticEntry.ofDiagnostic) ∧
        ((∃ u, generated.unit = some u ∧ u.kind = "completion") ↔
          generated.registrations ≠ [] ∧ validated.points ≠ []) ∧
        ∀ u, generated.unit = some u → u.kind = "completion" →
          ∃ p, validated.points.head? = some p ∧ u.hintName = p.qualifiedName ++ ".g.cs" := by
  intro strictness
  let outcome := (loaded.snapshot.generate sources).value
  let report := (Report.ofMethods strictness loaded.snapshot.methods).value
  have told := Command.completion_generateDocument written loaded.sourceHash
    (Command.taken denyWarnings outcome.diagnostics)
  have registrations : outcome.registrations = (Registration.scan loaded.snapshot.types).value :=
    Snapshot.registrations_generate loaded.snapshot sources
  have points : report.points = loaded.snapshot.acceptedPoints strictness := by
    unfold report
    rw [Report.value_ofMethods]
    rfl
  obtain ⟨completes, named⟩ := loaded.snapshot.completion_generate sources
  refine ⟨_, _, _, _, _, _, Command.ending_scan filter .document found.loading,
    Command.ending_validate filter .document denyWarnings found,
    Command.ending_generate_of_found filter .document denyWarnings found written,
    ?_, ?_, ?_, ?_, ?_, ?_⟩
  · exact congrArg (List.map RegistrationEntry.ofRegistration) registrations.symm
  · intro some
    have something : (Registration.scan loaded.snapshot.types).value ≠ [] := by
      rw [← registrations]
      exact fun nothing => some (List.map_eq_nil_iff.mpr nothing)
    have same : outcome.diagnostics = report.diagnostics :=
      congrArg Report.diagnostics (Snapshot.validation_generate sources something)
    constructor
    · exact congrArg
        (fun ds => (Command.taken denyWarnings ds).map DiagnosticEntry.ofDiagnostic) same
    · exact congrArg (fun ds => ExitStatus.ofDiagnostics (Command.taken denyWarnings ds)) same
  · intro none
    have nothing : (Registration.scan loaded.snapshot.types).value = [] :=
      registrations.symm.trans (List.map_eq_nil_iff.mp none)
    have silent : Command.taken denyWarnings outcome.diagnostics = [] := by
      have empty : outcome.diagnostics = [] :=
        congrArg Report.diagnostics (Snapshot.generate_of_nil sources nothing).1
      rw [empty]
      cases denyWarnings with
      | true => rfl
      | false => rfl
    constructor
    · exact congrArg (List.map DiagnosticEntry.ofDiagnostic) silent
    · exact congrArg ExitStatus.ofDiagnostics silent
  · exact ⟨report.diagnostics, (loaded.snapshot.diagnostics_rejectedMethods strictness).symm, rfl⟩
  · have some : outcome.registrations.map RegistrationEntry.ofRegistration ≠ [] ↔
        (Registration.scan loaded.snapshot.types).value ≠ [] := by
      rw [registrations, Ne, List.map_eq_nil_iff]
    refine Iff.trans ⟨?_, ?_⟩ (completes.trans (and_congr some.symm ?_))
    · rintro ⟨u, has, kind⟩
      obtain ⟨v, present, completion, -⟩ := (told u.hintName).mp ⟨u, has, kind, rfl⟩
      exact ⟨v, present, completion⟩
    · rintro ⟨v, present, completion⟩
      obtain ⟨u, has, kind, -⟩ := (told v.hintName).mpr ⟨v, present, completion, rfl⟩
      exact ⟨u, has, kind⟩
    · exact Iff.of_eq (congrArg (· ≠ []) points.symm)
  · intro u has kind
    obtain ⟨v, present, completion, same⟩ := (told u.hintName).mp ⟨u, has, kind, rfl⟩
    obtain ⟨p, first, name⟩ := named v present completion
    exact ⟨p, (congrArg List.head? points).trans first, same.symm.trans name⟩

/-- The unit of one handler and its extension point can be written. -/
theorem Sample.oneHandler_placed :
    ∃ path, ((Sample.oneHandler "C").generateOwn.value.placed ⟨"out"⟩
      (Sample.worldOf (Sample.oneHandler "C")).files).1 = .ok path := by
  obtain ⟨u, present, name⟩ : ∃ u, (Sample.oneHandler "C").generateOwn.value.unit = some u ∧
      u.hintName = "A.B.C.g.cs" := ⟨_, rfl, rfl⟩
  have inside : leadsOutside u.hintName = false := by
    rw [name]
    decide
  have room : (Sample.worldOf (Sample.oneHandler "C")).files.CanHold ⟨"out"⟩ u.hintName := by
    rw [name]
    exact ⟨_, _, rfl, rfl⟩
  obtain ⟨after, placed, -⟩ := GeneratedUnit.placed_of_canHold inside room
  rw [Outcome.placed_of_some present, placed]
  exact ⟨_, rfl⟩

/-- The story of one handler and its extension point, with warnings denied. -/
theorem commands_tell_one_story_sample :
    ∃ (validated : ValidateDocument) (generated : GenerateDocument) (status status' : ExitStatus)
      (after : FileSystem),
      let w := Sample.worldOf (Sample.oneHandler "C")
      Program.ending (.ofText .warn "") (.validate ⟨"decls.json"⟩ none [] true) .document w =
          .ofDocument w w.files ValidateDocument.form validated status ∧
        Program.ending (.ofText .warn "") (.generate ⟨"decls.json"⟩ ⟨"out"⟩ none [] true) .document
            w =
          .ofDocument w after GenerateDocument.form generated status' ∧
        (generated.registrations ≠ [] →
          generated.diagnostics = validated.diagnostics ∧ status' = status) := by
  obtain ⟨path, written⟩ := Sample.oneHandler_placed
  obtain ⟨_, validated, generated, status, status', after, -, validation, generation, -, same, -⟩ :=
    commands_tell_one_story (.ofText .warn "") true (Sample.worldOf_found _) written
  exact ⟨validated, generated, status, status', after, validation, generation, same⟩

end HandlerWiring
