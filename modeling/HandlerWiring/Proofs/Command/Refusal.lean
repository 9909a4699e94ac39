import HandlerWiring.Proofs.Command.Generate
import HandlerWiring.Proofs.FileSystem.Directory

/-!
# Units that are not written

A unit whose name is no name of a file is never written, whatever the files and the directory are.
If the name has a slash of either kind, it is refused before anything is touched. The empty name and
the two names made of dots pass that check, and the file system turns them down: by then the
directory has been made, so it may be the trace of a unit that was not written. It is none if the
directory was there before.
-/

namespace HandlerWiring

/-- A name that a file in a directory may have. -/
structure IsFileName (name : String) : Prop where
  nonempty : name ≠ ""
  noDots : name ≠ "." ∧ name ≠ ".."
  noSlash : '/' ∉ name.toList ∧ '\\' ∉ name.toList

/-- What is no name of a file has a slash, or is empty or made of dots. -/
theorem not_isFileName_iff {name : String} :
    ¬IsFileName name ↔
      ('/' ∈ name.toList ∨ '\\' ∈ name.toList) ∨ name = "" ∨ name = "." ∨ name = ".." := by
  constructor
  · intro unfit
    by_contra fits
    simp only [not_or] at fits
    obtain ⟨noSlash, nonempty, noDots⟩ := fits
    exact unfit ⟨nonempty, noDots, noSlash⟩
  · rintro ((slash | slash) | rfl | rfl | rfl) fits
    · exact fits.noSlash.1 slash
    · exact fits.noSlash.2 slash
    · exact fits.nonempty rfl
    · exact fits.noDots.1 rfl
    · exact fits.noDots.2 rfl

/-- A unit under an empty name or one made of dots is not placed, but its directory is made. -/
theorem GeneratedUnit.placed_of_dots {u : GeneratedUnit}
    (unfit : u.hintName = "" ∨ u.hintName = "." ∨ u.hintName = "..") (directory : Path)
    (files : FileSystem) :
    (∃ fault, (u.placed directory files).1 = .error fault) ∧
      (u.placed directory files).2 = (files.makeDirectories directory).2 := by
  have inside : leadsOutside u.hintName = false := by
    rcases unfit with named | named | named
    all_goals
      rw [named]
      decide
  unfold placed
  rw [inside, if_neg Bool.false_ne_true]
  cases files.makeDirectories directory with
  | mk result made =>
    cases result with
    | error cause => exact ⟨⟨_, rfl⟩, rfl⟩
    | ok _ =>
      obtain ⟨cause, turnedDown⟩ := FileSystem.write_join_error unfit made directory u.source
      simp only [turnedDown]
      exact ⟨⟨_, rfl⟩, trivial⟩

namespace World

theorem holding_files (w : World) : w.holding w.files = w := rfl

theorem holding_eq_iff {w : World} {files : FileSystem} :
    w.holding files = w ↔ files = w.files :=
  ⟨congrArg World.files, fun same => same ▸ rfl⟩

end World

/-- A directory that could be made is there, and making it changed nothing exactly if it was there
before. -/
theorem FileSystem.isDirectory_makeDirectories {files : FileSystem} {directory : Path}
    (named : directory.text ≠ "") (makes : (files.makeDirectories directory).1 = .ok ()) :
    (files.makeDirectories directory).2.isDirectory directory = true ∧
      ((files.makeDirectories directory).2 = files ↔ files.isDirectory directory = true) := by
  have made : files.makeDirectories directory =
      (.ok (), (files.makeDirectories directory).2) := Prod.ext makes rfl
  have there := isDirectory_of_makeDirectories named made
  refine ⟨there, fun same => same ▸ there, fun before => ?_⟩
  rw [makeDirectories_of_isDirectory before]

/-- A unit whose name is no name of a file is not written: an error is returned. A name with a slash
of either kind is refused, and nothing whatever is changed. Any other such name is empty or made of
dots, and then the directory of the unit is made before the error: the world is left as making the
directory leaves it, with nothing but directories on the way to it made. If that succeeds, the
directory is there afterwards, and nothing has changed only if it was there before. -/
theorem unfit_names_are_not_written {u : GeneratedUnit} (unfit : ¬IsFileName u.hintName)
    (directory : Path) (w : World) :
    let ran := (u.writeInto directory).run w
    let slashed := '/' ∈ u.hintName.toList ∨ '\\' ∈ u.hintName.toList
    (∃ fault, ran.1 = .error fault) ∧
      (slashed → ran = (.error (.outside u.hintName), w)) ∧
      (¬slashed → ran.2 = (w.makeDirectories directory).2 ∧
        FileSystem.MadeOnTheWay directory w.files ran.2.files ∧
        (directory.text ≠ "" → (w.makeDirectories directory).1 = .ok () →
          ran.2.files.isDirectory directory = true ∧
            (ran.2 = w ↔ w.files.isDirectory directory = true))) := by
  intro ran slashed
  have placed : ran = ((u.placed directory w.files).1, w.holding (u.placed directory w.files).2) :=
    u.run_writeInto directory w
  have refused (slash : slashed) : ran = (.error (.outside u.hintName), w) := by
    rw [placed, GeneratedUnit.placed_of_leadsOutside (leadsOutside_iff.mpr slash),
      World.holding_files]
  rcases not_isFileName_iff.mp unfit with slash | dots
  · exact ⟨⟨_, congrArg Prod.fst (refused slash)⟩, refused, fun noSlash => absurd slash noSlash⟩
  obtain ⟨fails, left⟩ := GeneratedUnit.placed_of_dots dots directory w.files
  refine ⟨?_, refused, fun _ => ?_⟩
  · rw [placed]
    exact fails
  have after : ran.2 = w.holding (w.files.makeDirectories directory).2 := by
    rw [placed, left]
  have files : ran.2.files = (w.files.makeDirectories directory).2 := congrArg World.files after
  rw [files, after, World.holding_eq_iff]
  refine ⟨rfl, FileSystem.madeOnTheWay_makeDirectories directory w.files, ?_⟩
  intro named makes
  exact FileSystem.isDirectory_makeDirectories named makes

/-- Of a unit that is named by two dots, a directory remains where there was none. -/
theorem unfit_names_are_not_written_dots :
    let u : GeneratedUnit := ⟨"..", .synthesized, "x"⟩
    let w := World.ofFiles ⟨[], []⟩
    let ran := (u.writeInto ⟨"out"⟩).run w
    ¬IsFileName u.hintName ∧ (∃ fault, ran.1 = .error fault) ∧
      w.files.isDirectory ⟨"out"⟩ = false ∧ ran.2.files.isDirectory ⟨"out"⟩ = true ∧ ran.2 ≠ w := by
  intro u w ran
  have unfit : ¬IsFileName u.hintName := fun fits => fits.noDots.2 rfl
  have missing : w.files.isDirectory ⟨"out"⟩ = false := by decide
  obtain ⟨fails, -, dots⟩ := unfit_names_are_not_written unfit ⟨"out"⟩ w
  obtain ⟨-, -, made⟩ := dots (by decide)
  obtain ⟨there, unchanged⟩ := made (by decide) rfl
  refine ⟨unfit, fails, missing, there, fun same => ?_⟩
  rw [unchanged.mp same] at missing
  cases missing

end HandlerWiring
