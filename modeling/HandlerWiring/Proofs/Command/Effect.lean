import HandlerWiring.Proofs.Command.Agreement
import HandlerWiring.Proofs.Command.Outputs
import HandlerWiring.Proofs.Command.ReadBack
import HandlerWiring.Proofs.FileSystem.Directory

/-!
# What the commands do to the files

Only `generate` changes files, and only where it has a unit to write: it may make directories on the
way to the output directory, also if it fails later, and it writes the one file under the unit's
name in that directory, in place of what was there. Nothing else is made, changed or removed,
whatever the snapshot calls its types and methods.

The locations are those of the resulting file system, so the output directory is where its path
leads once its directories are made. File systems have no links here.
-/

namespace HandlerWiring

/-! ## Writing a unit -/

/-- All that may have changed where a unit was to be written into a directory: at each location
there is what was there before, or a directory on the way to the output directory where nothing was
before, or the unit's file in the output directory, in place of no directory. -/
structure FileSystem.ChangedFor (u : GeneratedUnit) (directory : Path) (fs after : FileSystem) :
    Prop where
  working : after.working = fs.working
  changed (route : Route) : after.get? route = fs.get? route ∨
    (fs.get? route = none ∧ after.get? route = some .directory ∧ after.OnTheWay directory route) ∨
    (fs.get? route ≠ some .directory ∧ after.get? route = some (.text u.source) ∧
      ∃ here, after.Opens directory here ∧ route = u.hintName :: here)

/-- The file under the unit's name in a directory holds exactly its source. -/
structure FileSystem.HoldsUnit (u : GeneratedUnit) (directory : Path) (fs : FileSystem) : Prop where
  stands : ∃ here, fs.Opens directory here ∧ fs.get? (u.hintName :: here) = some (.text u.source)
  read : fs.read (directory.join u.hintName) = .ok u.source

namespace FileSystem

variable {u : GeneratedUnit} {directory : Path} {fs made after : FileSystem}

theorem ChangedFor.refl (u : GeneratedUnit) (directory : Path) (fs : FileSystem) :
    fs.ChangedFor u directory fs := ⟨rfl, fun _ => .inl rfl⟩

/-- If the unit is not written, at most directories were made. -/
theorem MadeOnTheWay.changedFor (u : GeneratedUnit) (h : MadeOnTheWay directory fs made) :
    fs.ChangedFor u directory made :=
  ⟨h.working, fun route => (h.changed route).imp_right .inl⟩

/-- If the unit is written, its file is the only other change. -/
theorem MadeOnTheWay.changedFor_put (h : MadeOnTheWay directory fs made) {here : Route}
    (stored : after = made.put (u.hintName :: here) (.text u.source))
    (keeps : made.KeepsDirectories after) (opened : after.Opens directory here)
    (free : made.get? (u.hintName :: here) ≠ some .directory) :
    fs.ChangedFor u directory after := by
  refine ⟨keeps.working.trans h.working, fun route => ?_⟩
  have stands : after.get? route =
      if route = u.hintName :: here then some (.text u.source) else made.get? route := by
    rw [stored]
    exact get?_put (List.cons_ne_nil u.hintName here) route
  by_cases same : route = u.hintName :: here
  · rw [if_pos same] at stands
    refine .inr (.inr ⟨?_, stands, here, opened, same⟩)
    intro before
    exact free (same ▸ h.keepsDirectories.directory before)
  · rw [if_neg same] at stands
    rcases h.changed route with unchanged | ⟨missing, there, passed⟩
    · exact .inl (stands.trans unchanged)
    · exact .inr (.inl ⟨missing, stands.trans there, keeps.onTheWay passed⟩)

end FileSystem

/-- Writing a unit into a directory changes what it may change, and if it succeeds the file holds
the source. -/
theorem GeneratedUnit.changedFor_placed (u : GeneratedUnit) (directory : Path) (files : FileSystem)
    (spelt : u.hintName ≠ "") :
    files.ChangedFor u directory (u.placed directory files).2 ∧
      ∀ path, (u.placed directory files).1 = .ok path →
        (u.placed directory files).2.HoldsUnit u directory := by
  have making := FileSystem.madeOnTheWay_makeDirectories directory files
  unfold placed
  split
  · exact ⟨.refl u directory files, fun path placed => (nomatch placed)⟩
  next inside =>
  have noSlash : '/' ∉ u.hintName.toList := fun slash => inside (leadsOutside_iff.mpr (.inl slash))
  split
  · next made failed =>
    rw [failed] at making
    exact ⟨making.changedFor u, fun path placed => (nomatch placed)⟩
  · next made ready =>
    rw [ready] at making
    split
    · exact ⟨making.changedFor u, fun path placed => (nomatch placed)⟩
    · next after written =>
      obtain ⟨here, opened, keeps, free, stored⟩ := FileSystem.write_join noSlash spelt written
      refine ⟨making.changedFor_put stored keeps opened free, fun _ _ => ⟨⟨here, opened, ?_⟩, ?_⟩⟩
      · rw [stored, FileSystem.get?_put (List.cons_ne_nil _ _), if_pos rfl]
      · exact FileSystem.read_of_write written

/-- The unit of a pass has the name of generated code. -/
theorem Snapshot.hintName_generate {s : Snapshot} {sources : Sources} {u : GeneratedUnit}
    (has : (s.generate sources).value.unit = some u) : ∃ name, u.hintName = name ++ ".g.cs" := by
  by_cases nothing : (Registration.scan s.types).value = []
  · rw [(generate_of_nil sources nothing).2] at has
    cases has
  · rw [unit_generate ((Registration.scan_ne_nil_iff s.types).mp nothing) sources] at has
    cases has
    split
    · exact ⟨_, rfl⟩
    · exact ⟨_, rfl⟩

/-! ## The commands -/

namespace Command

variable {decls outDir : Path} {settings : Option Path} {properties : List Property}
  {files : FileSystem} {loaded : LoadedSnapshot} {sources : Sources}

/-- Where the inputs fail, nothing is changed. -/
theorem generation_of_not_found
    (fails : ¬∃ loaded sources, InputsFound files decls settings properties loaded sources) :
    (generation decls outDir settings properties files).2 = files := by
  unfold generation
  split
  · rfl
  next loaded loading =>
  split
  · rfl
  next sources assembling => exact absurd ⟨loaded, sources, loading, assembling⟩ fails

/-- Where the inputs are found, the files are left as placing the unit leaves them, and the
generation gets through exactly if the unit is placed. -/
theorem generation_of_found (outDir : Path)
    (found : InputsFound files decls settings properties loaded sources) :
    (generation decls outDir settings properties files).2 =
        ((loaded.snapshot.generate sources).value.placed outDir files).2 ∧
      ((∃ g, (generation decls outDir settings properties files).1 = .ok g) ↔
        ∃ path, ((loaded.snapshot.generate sources).value.placed outDir files).1 = .ok path) := by
  simp only [generation, found.loading, found.assembling]
  cases (loaded.snapshot.generate sources).value.placed outDir files with
  | mk result after =>
    cases result with
    | error fault =>
      refine ⟨rfl, ?_, ?_⟩
      · rintro ⟨_, through⟩
        cases through
      · rintro ⟨_, written⟩
        cases written
    | ok path => exact ⟨rfl, fun _ => ⟨path, rfl⟩, fun _ => ⟨_, rfl⟩⟩

/-- A run of `generate` that reports no failure: with lines for people the command returns none,
and the document that is printed lists none. -/
def ReportsNoFailure (command : Command) (w : World) : Output → Prop
  | .prose colours => ∃ status, ((command.session (.prose colours)).run w).1 = .ok status
  | .document => ∃ d : GenerateDocument, d.errors = [] ∧
      ((command.session .document).run w).2.printed = w.printed ++ (Document.generate d).text

/-- A generation that reports no failure, in either output, has got through. -/
theorem generation_ok_of_reportsNoFailure {w : World} {denyWarnings : Bool} {output : Output}
    (silent : (Command.generate decls outDir settings properties denyWarnings).ReportsNoFailure w
      output) :
    ∃ g, (generation decls outDir settings properties w.files).1 = .ok g := by
  cases output with
  | prose colours =>
    obtain ⟨status, result⟩ := silent
    have ran := (run_generateProse decls outDir settings properties denyWarnings w colours).1
    rw [session, ran] at result
    cases gets : (generation decls outDir settings properties w.files).1 with
    | error failure =>
      rw [gets] at result
      cases result
    | ok g => exact ⟨g, rfl⟩
  | document =>
    obtain ⟨d, silent, printed⟩ := silent
    rw [(session_tells w _).printed, String.append_right_inj] at printed
    rw [← Document.generate.inj (Document.text_injective printed)] at silent
    by_cases loads : ∃ loaded sources,
        InputsFound w.files decls settings properties loaded sources
    · obtain ⟨loaded, sources, found⟩ := loads
      refine (generation_of_found outDir found).2.mpr ?_
      cases placing : ((loaded.snapshot.generate sources).value.placed outDir w.files).1 with
      | error fault =>
        rw [generateTold_of_unwritten denyWarnings found placing] at silent
        cases silent
      | ok path => exact ⟨path, rfl⟩
    · obtain ⟨error, sourceHash, failed⟩ := generateTold_of_not_found outDir denyWarnings loads
      rw [failed] at silent
      cases silent

end Command

/-- The effect of the commands on the files, in either output. `scan`, `validate` and `config` leave
them as they are. So does `generate` if its inputs fail, if the pass has no unit, and if the name of
the unit has a slash of either kind. In every other case at most directories on the way to the
output directory are made and the file under the unit's name in it is written. If the pass has a
unit and the command reports no failure, be it ended by denied warnings or not, that file holds
exactly the source. -/
theorem commands_write_only_the_unit (filter : LogFilter) (output : Output) (w : World) :
    let after (command : Command) := (Program.ending filter command output w).files
    (∀ decls, after (.scan decls) = w.files) ∧
      (∀ decls settings properties denyWarnings,
        after (.validate decls settings properties denyWarnings) = w.files) ∧
      (∀ decls settings properties, after (.config decls settings properties) = w.files) ∧
      ∀ decls outDir settings properties denyWarnings,
        let command := Command.generate decls outDir settings properties denyWarnings
        ((¬∃ loaded sources, InputsFound w.files decls settings properties loaded sources) →
            after command = w.files) ∧
          ∀ loaded sources, InputsFound w.files decls settings properties loaded sources →
            let unit := (loaded.snapshot.generate sources).value.unit
            (unit = none → after command = w.files) ∧
              ∀ u, unit = some u →
                ('/' ∈ u.hintName.toList ∨ '\\' ∈ u.hintName.toList → after command = w.files) ∧
                  w.files.ChangedFor u outDir (after command) ∧
                  (command.ReportsNoFailure w output → (after command).HoldsUnit u outDir) := by
  intro after
  have leaves (command : Command) : after command = command.left w.files :=
    (Command.ending_told w filter command output).2
  refine ⟨fun decls => leaves _, fun decls settings properties denyWarnings => leaves _,
    fun decls settings properties => leaves _, ?_⟩
  intro decls outDir settings properties denyWarnings command
  rw [leaves]
  refine ⟨fun fails => Command.generation_of_not_found fails, ?_⟩
  intro loaded sources found unit
  obtain ⟨same, through⟩ := Command.generation_of_found outDir found
  have left : command.left w.files =
      ((loaded.snapshot.generate sources).value.placed outDir w.files).2 := same
  rw [left]
  constructor
  · intro none
    rw [Outcome.placed_of_none none]
  intro u present
  obtain ⟨name, named⟩ := Snapshot.hintName_generate present
  have spelt : u.hintName ≠ "" := by
    rw [named]
    intro empty
    exact absurd (String.append_eq_empty_iff.mp empty).2 (by decide)
  obtain ⟨changed, holds⟩ := u.changedFor_placed outDir w.files spelt
  rw [Outcome.placed_of_some present]
  refine ⟨?_, changed, ?_⟩
  · intro slash
    rw [GeneratedUnit.placed_of_leadsOutside (leadsOutside_iff.mpr slash)]
  · intro silent
    obtain ⟨path, written⟩ := through.mp (Command.generation_ok_of_reportsNoFailure silent)
    rw [Outcome.placed_of_some present] at written
    cases placed : (u.placed outDir w.files).1 with
    | error fault =>
      rw [placed] at written
      cases written
    | ok place => exact holds place placed

/-- The unit of one handler stands in a directory that the command has made. -/
theorem commands_write_only_the_unit_sample :
    let w := Sample.worldOf (Sample.oneHandler "C")
    let command := Command.generate ⟨"decls.json"⟩ ⟨"out"⟩ none [] false
    let after := (Program.ending (.ofText .warn "") command (.prose false) w).files
    ∃ u, (Sample.oneHandler "C").generateOwn.value.unit = some u ∧
      w.files.ChangedFor u ⟨"out"⟩ after ∧ after.HoldsUnit u ⟨"out"⟩ := by
  intro w command after
  have found := Sample.worldOf_found (Sample.oneHandler "C")
  have silent : command.ReportsNoFailure w (.prose false) := by
    obtain ⟨g, gets⟩ :=
      (Command.generation_of_found ⟨"out"⟩ found).2.mpr Sample.oneHandler_placed
    refine ⟨g.status false, ?_⟩
    rw [Command.session, (Command.run_generateProse _ _ _ _ _ w false).1, gets]
    rfl
  obtain ⟨u, present⟩ : ∃ u, (Sample.oneHandler "C").generateOwn.value.unit = some u := ⟨_, rfl⟩
  obtain ⟨-, -, -, effect⟩ := commands_write_only_the_unit (.ofText .warn "") (.prose false) w
  obtain ⟨-, changed, holds⟩ := ((effect _ _ _ _ _).2 _ _ found).2 u present
  exact ⟨u, present, changed, holds silent⟩

end HandlerWiring
