import HandlerWiring.Command.Run
import HandlerWiring.Proofs.FileSystem.Basic
import HandlerWiring.Proofs.Input
import HandlerWiring.Proofs.Pass
import HandlerWiring.Proofs.Program
import HandlerWiring.Sample

/-!
# What `generate` does

The command in either output comes down to one function of the files: the snapshot and the sources
are found, the pass is run, its unit is placed in the directory. Both outputs end with the status
that the diagnostics call for and leave the files that the function gives.
-/

namespace HandlerWiring

open Text

/-! ## Placing a unit -/

/-- Where a unit is written into a directory of some files, and the files afterwards. -/
def GeneratedUnit.placed (u : GeneratedUnit) (directory : Path) (files : FileSystem) :
    Except WriteFault Path × FileSystem :=
  if leadsOutside u.hintName then (.error (.outside u.hintName), files)
  else
    match files.makeDirectories directory with
    | (.error cause, made) => (.error (.directory directory cause), made)
    | (.ok (), made) =>
      match made.write (directory.join u.hintName) u.source with
      | .error cause => (.error (.file (directory.join u.hintName) cause), made)
      | .ok after => (.ok (directory.join u.hintName), after)

@[simp] theorem GeneratedUnit.run_writeInto (u : GeneratedUnit) (directory : Path) (w : World) :
    (u.writeInto directory).run w =
      ((u.placed directory w.files).1, w.holding (u.placed directory w.files).2) := by
  rw [writeInto, placed]
  split
  · rfl
  · rw [Session.run, World.makeDirectories]
    cases w.files.makeDirectories directory with
    | mk result made =>
      cases result with
      | error cause => rfl
      | ok _ =>
        simp only [Session.run, World.write]
        cases made.write (directory.join u.hintName) u.source with
        | error cause => rfl
        | ok after => rfl

/-- Where the unit of a pass is written, if it has one, and the files afterwards. -/
def Outcome.placed (o : Outcome) (directory : Path) (files : FileSystem) :
    Except WriteFault (Option Path) × FileSystem :=
  match o.unit with
  | none => (.ok none, files)
  | some u => ((u.placed directory files).1.map some, (u.placed directory files).2)

theorem Outcome.placed_of_none {o : Outcome} (h : o.unit = none) (directory : Path)
    (files : FileSystem) : o.placed directory files = (.ok none, files) := by
  rw [placed, h]

theorem Outcome.placed_of_some {o : Outcome} {u : GeneratedUnit} (h : o.unit = some u)
    (directory : Path) (files : FileSystem) :
    o.placed directory files =
      ((u.placed directory files).1.map some, (u.placed directory files).2) := by
  rw [placed, h]

@[simp] theorem Outcome.run_writeInto (o : Outcome) (directory : Path) (w : World) :
    (o.writeInto directory).run w =
      ((o.placed directory w.files).1, w.holding (o.placed directory w.files).2) := by
  rw [writeInto, placed]
  cases o.unit with
  | none => rfl
  | some u =>
    simp only [Session.run_bind, GeneratedUnit.run_writeInto]
    cases (u.placed directory w.files).1 with
    | error fault => rfl
    | ok path => rfl

/-- A name leads outside if it has a slash of either kind. -/
theorem leadsOutside_iff {name : String} :
    leadsOutside name = true ↔ '/' ∈ name.toList ∨ '\\' ∈ name.toList := by
  rw [leadsOutside, List.any_eq_true]
  constructor
  · rintro ⟨c, hc, slash⟩
    rw [Bool.or_eq_true, beq_iff_eq, beq_iff_eq] at slash
    rcases slash with rfl | rfl
    · exact .inl hc
    · exact .inr hc
  · rintro (h | h)
    · exact ⟨_, h, rfl⟩
    · exact ⟨_, h, rfl⟩

/-- A text can be written under a name in a directory, which is made if it is missing. -/
def FileSystem.CanHold (files : FileSystem) (directory : Path) (name : String) : Prop :=
  ∃ made after, files.makeDirectories directory = (.ok (), made) ∧
    made.write (directory.join name) "" = .ok after

/-- A unit whose name leads outside is not placed. -/
theorem GeneratedUnit.placed_of_leadsOutside {u : GeneratedUnit}
    (outside : leadsOutside u.hintName = true) (directory : Path) (files : FileSystem) :
    u.placed directory files = (.error (.outside u.hintName), files) := by
  unfold placed
  rw [if_pos outside]

/-- A unit that the directory can hold is placed there and can be read. -/
theorem GeneratedUnit.placed_of_canHold {u : GeneratedUnit} {directory : Path}
    {files : FileSystem} (inside : leadsOutside u.hintName = false)
    (h : files.CanHold directory u.hintName) :
    ∃ after, u.placed directory files = (.ok (directory.join u.hintName), after) ∧
      after.read (directory.join u.hintName) = .ok u.source := by
  obtain ⟨made, _, making, writing⟩ := h
  obtain ⟨after, written⟩ := FileSystem.write_isOk writing u.source
  refine ⟨after, ?_, FileSystem.read_of_write written⟩
  rw [placed, making, inside]
  simp only [written, Bool.false_eq_true, if_false]

/-- Where a unit was placed, its source can be read. -/
theorem GeneratedUnit.read_of_placed {u : GeneratedUnit} {directory path : Path}
    {files : FileSystem} (placed : (u.placed directory files).1 = .ok path) :
    (u.placed directory files).2.read path = .ok u.source := by
  unfold GeneratedUnit.placed at placed ⊢
  by_cases outside : leadsOutside u.hintName = true
  · rw [if_pos outside] at placed
    cases placed
  · rw [if_neg outside] at placed ⊢
    cases making : files.makeDirectories directory with
    | mk result made =>
      cases result with
      | error cause =>
        simp only [making] at placed
        cases placed
      | ok _ =>
        simp only [making] at placed ⊢
        cases written : made.write (directory.join u.hintName) u.source with
        | error cause =>
          rw [written] at placed
          cases placed
        | ok after =>
          rw [written] at placed
          cases placed
          exact FileSystem.read_of_write written

/-- A unit that a pass has is placed somewhere if the placing goes well, and can be read there. -/
theorem Outcome.read_of_placed {o : Outcome} {u : GeneratedUnit} (present : o.unit = some u)
    {directory : Path} {files : FileSystem} {path : Option Path}
    (placed : (o.placed directory files).1 = .ok path) :
    ∃ place, path = some place ∧ (o.placed directory files).2.read place = .ok u.source := by
  rw [placed_of_some present] at placed ⊢
  cases there : (u.placed directory files).1 with
  | error fault =>
    rw [there] at placed
    cases placed
  | ok place =>
    rw [there] at placed
    cases placed
    exact ⟨place, rfl, GeneratedUnit.read_of_placed there⟩

/-! ## The command -/

namespace Command

/-- A pass over a snapshot that was found, and where its unit was written. -/
structure Generation where
  loaded : LoadedSnapshot
  outcome : Outcome
  path : Option Path

/-- What `generate` comes to in some files, and the files afterwards. -/
def generation (decls outDir : Path) (settings : Option Path) (properties : List Property)
    (files : FileSystem) : Except Failure Generation × FileSystem :=
  match LoadedSnapshot.found files decls with
  | .error fault => (.error (.loading decls fault), files)
  | .ok loaded =>
    match Sources.found files loaded.snapshot.options settings properties with
    | .error fault => (.error (.assembling fault), files)
    | .ok sources =>
      let outcome := (loaded.snapshot.generate sources).value
      match outcome.placed outDir files with
      | (.error fault, after) => (.error (.writing fault), after)
      | (.ok path, after) => (.ok ⟨loaded, outcome, path⟩, after)

/-- How a generation ends, with warnings taken as they are to be taken. -/
def Generation.status (denyWarnings : Bool) (g : Generation) : ExitStatus :=
  .ofDiagnostics (taken denyWarnings g.outcome.diagnostics)

/-- How a command that tells of a failure in its document ends. -/
def Generation.toldStatus (denyWarnings : Bool) : Except Failure Generation → ExitStatus
  | .error _ => .failure
  | .ok g => g.status denyWarnings

variable (decls outDir : Path) (settings : Option Path) (properties : List Property)
  (denyWarnings : Bool) (w : World)

/-- With lines for people, a failure ends the command. -/
theorem run_generateProse (colours : Bool) :
    ((generateProse colours decls outDir settings properties denyWarnings).run w).1 =
        (generation decls outDir settings properties w.files).1.map
          (Generation.status denyWarnings) ∧
      ((generateProse colours decls outDir settings properties denyWarnings).run w).2.files =
        (generation decls outDir settings properties w.files).2 := by
  simp only [generateProse, generation, Session.run_bind, Session.run_printLine,
    LoadedSnapshot.run_load, World.files_printing]
  cases LoadedSnapshot.found w.files decls with
  | error fault => exact ⟨rfl, rfl⟩
  | ok loaded =>
    simp only [Session.run_bind, Sources.run_assemble, World.files_reporting, World.files_printing]
    cases Sources.found w.files loaded.snapshot.options settings properties with
    | error fault => exact ⟨rfl, rfl⟩
    | ok sources =>
      simp only [Session.run_bind, Session.run_ofLogged, Session.run_printLines,
        Session.run_elapsed, Outcome.run_writeInto, World.files_reporting, World.files_printing]
      cases (loaded.snapshot.generate sources).value.placed outDir w.files with
      | mk result after =>
        cases result with
        | error fault => exact ⟨rfl, rfl⟩
        | ok path =>
          simp only [Session.run_bind, Session.run_printLine, Session.run_printLines]
          exact ⟨rfl, rfl⟩

/-- With a document for machines, a failure is told in the document. -/
theorem run_generateJson :
    ((generateJson decls outDir settings properties denyWarnings).run w).1 =
        .ok (Generation.toldStatus denyWarnings
          (generation decls outDir settings properties w.files).1) ∧
      ((generateJson decls outDir settings properties denyWarnings).run w).2.files =
        (generation decls outDir settings properties w.files).2 := by
  simp only [generateJson, generation, Session.run_bind, LoadedSnapshot.run_load]
  cases LoadedSnapshot.found w.files decls with
  | error fault => exact ⟨rfl, rfl⟩
  | ok loaded =>
    simp only [Session.run_bind, Sources.run_assemble, World.files_reporting]
    cases Sources.found w.files loaded.snapshot.options settings properties with
    | error fault => exact ⟨rfl, rfl⟩
    | ok sources =>
      simp only [Session.run_bind, Session.run_ofLogged, Outcome.run_writeInto,
        World.files_reporting]
      cases (loaded.snapshot.generate sources).value.placed outDir w.files with
      | mk result after =>
        cases result with
        | error fault => exact ⟨rfl, rfl⟩
        | ok path =>
          simp only [Session.run_bind, printDocument, Session.run_printLine]
          exact ⟨rfl, rfl⟩

/-- In either output, the program ends with the number that the generation calls for and leaves
the files of the generation. -/
theorem ending_generate (filter : LogFilter) (output : Output) :
    let command := Command.generate decls outDir settings properties denyWarnings
    (Program.ending filter command output w).code =
        (Generation.toldStatus denyWarnings
          (generation decls outDir settings properties w.files).1).code ∧
      (Program.ending filter command output w).files =
        (generation decls outDir settings properties w.files).2 := by
  intro command
  rw [Program.ending_eq]
  cases output with
  | prose colours =>
    obtain ⟨result, files⟩ :=
      run_generateProse decls outDir settings properties denyWarnings w colours
    refine ⟨?_, files⟩
    simp only [command, session, result]
    cases (generation decls outDir settings properties w.files).1 with
    | error failure => rfl
    | ok g => rfl
  | document =>
    obtain ⟨result, files⟩ := run_generateJson decls outDir settings properties denyWarnings w
    refine ⟨?_, files⟩
    simp only [command, session, result]
    rfl

/-! ## Agreement with the pass -/

/-- A pass ends well unless warnings are denied. -/
theorem status_of_generate (s : Snapshot) (sources : Sources) :
    ExitStatus.ofDiagnostics (taken false (s.generate sources).value.diagnostics) = .success := by
  have warns := s.generate_warns sources
  have none : ((s.generate sources).value.diagnostics.any (·.severity == .error)) = false := by
    rw [List.any_eq_false]
    intro d hd
    rw [warns d hd]
    decide
  simp only [taken, ExitStatus.ofDiagnostics, none, Bool.false_eq_true, if_false]

/-- A stored snapshot, without settings and properties, is generated from with its own options: the
command ends with zero if the unit of the pass could be placed. -/
theorem ending_of_stored (filter : LogFilter) (output : Output) {s : Snapshot} {decls : Path}
    (outDir : Path) {w : World} (stored : w.files.read decls = .ok (Snapshot.form.pretty s)) :
    let ending := Program.ending filter (.generate decls outDir none [] false) output w
    ending.code = (if (s.generateOwn.value.placed outDir w.files).1.isOk then 0 else 1) ∧
      ending.files = (s.generateOwn.value.placed outDir w.files).2 := by
  intro ending
  obtain ⟨code, files⟩ := ending_generate decls outDir none [] false w filter output
  rw [generation, LoadedSnapshot.found_of_stored stored] at code files
  simp only [Sources.found_of_options] at code files
  have ends := status_of_generate s ⟨s.options, s.options⟩
  rw [code, files, Snapshot.generateOwn, Snapshot.ownSources]
  cases (s.generate ⟨s.options, s.options⟩).value.placed outDir w.files with
  | mk result after =>
    cases result with
    | error fault => exact ⟨rfl, rfl⟩
    | ok path =>
      refine ⟨?_, rfl⟩
      simp only [Generation.toldStatus, Generation.status, ends]
      rfl

end Command

/-- For every stored snapshot, directory and output, the command without settings, properties and
denied warnings agrees with the pass over the snapshot. Without a unit it ends with zero and
changes no file. A unit whose name has a slash of either kind makes it end with one, and no file is
changed. Any other unit that the directory can hold is written there: the command ends with zero
and the file holds the source. -/
theorem generate_agrees_with_pass (filter : LogFilter) (output : Output) (s : Snapshot)
    (decls outDir : Path) (w : World)
    (stored : w.files.read decls = .ok (Snapshot.form.pretty s)) :
    let ending := Program.ending filter (.generate decls outDir none [] false) output w
    (s.generateOwn.value.unit = none → ending.code = 0 ∧ ending.files = w.files) ∧
      ∀ u, s.generateOwn.value.unit = some u →
        ('/' ∈ u.hintName.toList ∨ '\\' ∈ u.hintName.toList →
          ending.code = 1 ∧ ending.files = w.files) ∧
        ('/' ∉ u.hintName.toList → '\\' ∉ u.hintName.toList →
          w.files.CanHold outDir u.hintName →
            ending.code = 0 ∧ ending.files.read (outDir.join u.hintName) = .ok u.source) := by
  intro ending
  obtain ⟨code, files⟩ := Command.ending_of_stored filter output outDir stored
  refine ⟨?_, ?_⟩
  · intro absent
    rw [Outcome.placed_of_none absent] at code files
    exact ⟨code, files⟩
  · intro u present
    rw [Outcome.placed_of_some present] at code files
    refine ⟨?_, ?_⟩
    · intro slash
      have outside : leadsOutside u.hintName = true := leadsOutside_iff.mpr slash
      rw [GeneratedUnit.placed_of_leadsOutside outside outDir w.files] at code files
      exact ⟨code, files⟩
    · intro noSlash noBackslash room
      have inside : leadsOutside u.hintName = false := by
        rw [Bool.eq_false_iff, Ne, leadsOutside_iff, not_or]
        exact ⟨noSlash, noBackslash⟩
      obtain ⟨after, placed, read⟩ := GeneratedUnit.placed_of_canHold inside room
      rw [placed] at code files
      exact ⟨code, files ▸ read⟩

/-- A handler and an extension point of some name. -/
def Sample.oneHandler (method : String) : Snapshot :=
  let handler := (Candidate.ofName "A.H").implementing ⟨"CQRSToolkit.ICommandHandler", ["A.C"]⟩
  (Snapshot.empty.addType handler).addMethod (validExtensionPoint "A" "B" method)

/-- What the command comes to on a snapshot that is the only file. -/
def Sample.ending (s : Snapshot) : Program.Ending :=
  Program.ending (.ofText .warn "") (.generate ⟨"decls.json"⟩ ⟨"out"⟩ none [] false) .document
    (.ofFiles ⟨[(["decls.json"], .text (Snapshot.form.pretty s))], []⟩)

/-- A snapshot without handlers, one whose unit is refused, and one whose unit is written. -/
theorem generate_agrees_with_pass_samples :
    (Sample.ending .empty).code = 0 ∧
      (Sample.ending (Sample.oneHandler "C/D")).code = 1 ∧
      ∃ u, (Sample.oneHandler "C").generateOwn.value.unit = some u ∧
        (Sample.ending (Sample.oneHandler "C")).code = 0 ∧
        (Sample.ending (Sample.oneHandler "C")).files.read ⟨"out/A.B.C.g.cs"⟩ = .ok u.source := by
  have agrees := fun s => generate_agrees_with_pass (.ofText .warn "") .document s ⟨"decls.json"⟩
    ⟨"out"⟩ (.ofFiles ⟨[(["decls.json"], .text (Snapshot.form.pretty s))], []⟩) rfl
  refine ⟨((agrees .empty).1 rfl).1, ?_, ?_⟩
  · obtain ⟨u, present, name⟩ : ∃ u, (Sample.oneHandler "C/D").generateOwn.value.unit = some u ∧
        u.hintName = "A.B.C/D.g.cs" := ⟨_, rfl, rfl⟩
    have slash : '/' ∈ u.hintName.toList := by
      rw [name]
      decide
    exact (((agrees _).2 u present).1 (.inl slash)).1
  · obtain ⟨u, present, name⟩ : ∃ u, (Sample.oneHandler "C").generateOwn.value.unit = some u ∧
        u.hintName = "A.B.C.g.cs" := ⟨_, rfl, rfl⟩
    have written := ((agrees _).2 u present).2
    rw [name] at written
    obtain ⟨code, read⟩ := written (by decide) (by decide) ⟨_, _, rfl, rfl⟩
    exact ⟨u, present, code, read⟩

end HandlerWiring
