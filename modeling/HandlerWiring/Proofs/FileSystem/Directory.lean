import HandlerWiring.Proofs.FileSystem.Basic
import HandlerWiring.Proofs.FileSystem.Path

/-!
# What making directories and writing into them changes

Making the directories of a path makes some directories that the walk of the path passes, where
nothing was before, and changes nothing else, whether or not all of them can be made. A file that is
written under a name in a directory stands in that directory, provided the name has no slash: the
walk of the directory's path ends where the file is.

Both are said of what is at each location. The places on the way are those of the walk in the
resulting file system, so a path that goes up again, as in `a/../b`, has both `a` and `b` on its
way.

If making a directory succeeds it is there afterwards, and if it was there before nothing is made.
-/

namespace HandlerWiring.FileSystem

variable {fs after : FileSystem}

/-! ## The way of a path -/

/-- The walk of a path ends in a directory. -/
def Opens (fs : FileSystem) (p : Path) (here : Route) : Prop :=
  fs.walk (fs.start p) p.pieces = .ok here

/-- The walk of a path passes a directory, or ends in it. -/
def OnTheWay (fs : FileSystem) (p : Path) (here : Route) : Prop :=
  ∃ before, before <+: p.pieces ∧ fs.walk (fs.start p) before = .ok here

theorem KeepsDirectories.opens (keeps : fs.KeepsDirectories after) {p : Path} {here : Route}
    (opened : fs.Opens p here) : after.Opens p here := by
  rw [Opens, keeps.start]
  exact keeps.walk opened

theorem KeepsDirectories.onTheWay (keeps : fs.KeepsDirectories after) {p : Path} {here : Route}
    (passed : fs.OnTheWay p here) : after.OnTheWay p here := by
  obtain ⟨before, front, walked⟩ := passed
  exact ⟨before, front, by rw [keeps.start]; exact keeps.walk walked⟩

/-- A walk goes on where its first part ends. -/
theorem walk_append {here there : Route} {pieces : List String}
    (walked : fs.walk here pieces = .ok there) (rest : List String) :
    fs.walk here (pieces ++ rest) = fs.walk there rest := by
  induction pieces generalizing here with
  | nil =>
    cases walked
    rfl
  | cons piece others ih =>
    rw [walk] at walked
    rw [List.cons_append, walk]
    cases entered : fs.enter here piece with
    | error fault =>
      rw [entered] at walked
      cases walked
    | ok next =>
      rw [entered] at walked
      exact ih walked

/-- The last piece that is not empty, and those before it, the last one first. -/
theorem lastPiece?_eq_some {pieces before : List String} {last : String}
    (cut : lastPiece? pieces = some (last, before)) :
    last.isEmpty = false ∧ last :: before <:+ pieces := by
  induction pieces with
  | nil => cases cut
  | cons piece rest ih =>
    rw [lastPiece?] at cut
    split at cut
    · obtain ⟨spelt, behind⟩ := ih cut
      exact ⟨spelt, behind.trans (List.suffix_cons piece rest)⟩
    · next spelt =>
      cases cut
      exact ⟨Bool.eq_false_iff.mpr spelt, List.suffix_rfl⟩

/-- A directory can be entered by its name. -/
theorem LeadsTo.enter {p : Path} {here : Route} {name : String} {slashed : Bool}
    (leads : fs.LeadsTo p here name slashed)
    (there : after.get? (name :: here) = some .directory) :
    after.enter here name = .ok (name :: here) := by
  obtain ⟨before, cut, -⟩ := leads.walked
  obtain ⟨spelt, -⟩ := lastPiece?_eq_some cut
  obtain ⟨noDot, noDots⟩ := not_or.mp leads.noDots
  have busy : Path.isIdle name = false := by
    rw [Path.isIdle, spelt, Bool.false_or, beq_false_of_ne noDot]
  rw [FileSystem.enter, if_neg (Bool.eq_false_iff.mp busy), if_neg noDots, if_neg leads.shortName,
    there]

/-- Once there is a directory where a path leads to, it is on the way of the path. -/
theorem LeadsTo.onTheWay {p : Path} {here : Route} {name : String} {slashed : Bool}
    (leads : fs.LeadsTo p here name slashed) (keeps : fs.KeepsDirectories after)
    (there : after.get? (name :: here) = some .directory) :
    after.OnTheWay p (name :: here) := by
  obtain ⟨before, cut, walked⟩ := leads.walked
  have front : before.reverse ++ [name] <+: p.pieces := by
    simpa using List.reverse_prefix.mpr (lastPiece?_eq_some cut).2
  refine ⟨_, front, ?_⟩
  rw [keeps.start, walk_append (keeps.walk walked), walk, leads.enter there]
  rfl

/-! ## Making directories -/

/-- The one file system is the other with some directories on the way of a path made. -/
structure MadeOnTheWay (p : Path) (fs after : FileSystem) : Prop where
  working : after.working = fs.working
  changed (route : Route) : after.get? route = fs.get? route ∨
    (fs.get? route = none ∧ after.get? route = some .directory ∧ after.OnTheWay p route)

namespace MadeOnTheWay

variable {p : Path}

theorem refl (fs : FileSystem) : MadeOnTheWay p fs fs := ⟨rfl, fun _ => .inl rfl⟩

theorem keepsDirectories (made : MadeOnTheWay p fs after) : fs.KeepsDirectories after := by
  refine ⟨made.working, fun {route} there => ?_⟩
  rcases made.changed route with same | ⟨missing, -, -⟩
  · rw [same, there]
  · rw [missing] at there
    cases there

theorem trans {between : FileSystem} (first : MadeOnTheWay p fs between)
    (second : MadeOnTheWay p between after) : MadeOnTheWay p fs after := by
  refine ⟨second.working.trans first.working, fun route => ?_⟩
  rcases second.changed route with same | ⟨missing, there, passed⟩
  · rcases first.changed route with unchanged | ⟨missing, there, passed⟩
    · exact .inl (same.trans unchanged)
    · exact .inr ⟨missing, same.trans there, second.keepsDirectories.onTheWay passed⟩
  · rcases first.changed route with unchanged | ⟨-, before, -⟩
    · exact .inr ⟨unchanged.symm.trans missing, there, passed⟩
    · rw [missing] at before
      cases before

end MadeOnTheWay

/-- A directory is made under a name that is not in use. -/
theorem makeDirectory_ok_iff {q : Path} :
    fs.makeDirectory q = .ok after ↔ ∃ here name slashed, fs.LeadsTo q here name slashed ∧
      fs.get? (name :: here) = none ∧ after = fs.put (name :: here) .directory := by
  simp only [← resolve_eq_named_iff]
  unfold makeDirectory
  cases fs.resolve q with
  | error fault => simp [bind, Except.bind]
  | ok target =>
    cases target with
    | directory there => simp [bind, Except.bind]
    | named here name slashed =>
      cases used : fs.get? (name :: here) with
      | some entry => simp [bind, Except.bind, used]
      | none =>
        simp only [bind, Except.bind, used]
        constructor
        · intro same
          exact ⟨here, name, slashed, rfl, used, (Except.ok.inj same).symm⟩
        · rintro ⟨_, _, _, same, _, rfl⟩
          cases same
          rfl

/-- The root is not made. -/
theorem not_leadsTo_root {here : Route} {name : String} {slashed : Bool} :
    ¬fs.LeadsTo ⟨"/"⟩ here name slashed := by
  intro leads
  obtain ⟨before, cut, -⟩ := leads.walked
  have nothing : lastPiece? (Path.pieces ⟨"/"⟩).reverse = none := rfl
  rw [nothing] at cut
  cases cut

/-- What is on the way of a directory above a path is on the way of the path. -/
theorem OnTheWay.of_front {p q : Path} {route : Route} (front : q.pieces <+: p.pieces)
    (root : q.isAbsolute = p.isAbsolute) (passed : fs.OnTheWay q route) :
    fs.OnTheWay p route := by
  obtain ⟨before, first, walked⟩ := passed
  exact ⟨before, first.trans front, by rw [start, ← root]; exact walked⟩

/-- A directory that is made above a path, or at its end, is on its way. -/
theorem madeOnTheWay_of_makeDirectory {p q : Path} (above : q ∈ p.lineage)
    (made : fs.makeDirectory q = .ok after) : MadeOnTheWay p fs after := by
  obtain ⟨here, name, slashed, leads, free, rfl⟩ := makeDirectory_ok_iff.mp made
  have keeps : fs.KeepsDirectories (fs.put (name :: here) .directory) :=
    keepsDirectories_put (free ▸ nofun)
  have there : (fs.put (name :: here) .directory).get? (name :: here) = some .directory := by
    rw [get?_put (List.cons_ne_nil name here), if_pos rfl]
  refine ⟨rfl, fun route => ?_⟩
  by_cases same : route = name :: here
  · subst same
    rcases Path.mem_lineage above with rfl | ⟨front, root⟩
    · exact absurd leads not_leadsTo_root
    · exact .inr ⟨free, there, .of_front front root (leads.onTheWay keeps there)⟩
  · rw [get?_put (List.cons_ne_nil name here), if_neg same]
    exact .inl rfl

/-- Making a directory that may be there already makes it or changes nothing. -/
theorem madeOnTheWay_of_ensureDirectory {p q : Path} (above : q ∈ p.lineage)
    (made : fs.ensureDirectory q = .ok after) : MadeOnTheWay p fs after := by
  unfold ensureDirectory at made
  split at made
  · next first =>
    cases made
    exact madeOnTheWay_of_makeDirectory above first
  · split at made
    · cases made
      exact .refl fs
    · cases made

/-- Making directories above a path makes directories on its way, also if it fails. -/
theorem madeOnTheWay_makeLineage {p : Path} {lineage : List Path}
    (above : ∀ q ∈ lineage, q ∈ p.lineage) (fs : FileSystem) :
    MadeOnTheWay p fs (fs.makeLineage lineage).2 := by
  induction lineage generalizing fs with
  | nil => exact .refl fs
  | cons q parents ih =>
    have here := above q List.mem_cons_self
    rw [makeLineage]
    split
    · next made => exact madeOnTheWay_of_makeDirectory here made
    · have parentsMade := ih (fun q among => above q (List.mem_cons_of_mem _ among)) fs
      split
      · next failed =>
        rw [failed] at parentsMade
        exact parentsMade
      · next made =>
        rw [made] at parentsMade
        split
        · next ensured =>
          exact parentsMade.trans (madeOnTheWay_of_ensureDirectory here ensured)
        · exact parentsMade
    · exact .refl fs

/-- Making the directories of a path makes directories on its way and changes nothing else. -/
theorem madeOnTheWay_makeDirectories (p : Path) (fs : FileSystem) :
    MadeOnTheWay p fs (fs.makeDirectories p).2 :=
  madeOnTheWay_makeLineage (fun _ among => among) fs

/-! ## Directories that are there -/

theorem isDirectory_of_makeDirectory {q : Path} (made : fs.makeDirectory q = .ok after) :
    after.isDirectory q = true := by
  obtain ⟨here, name, slashed, leads, free, rfl⟩ := makeDirectory_ok_iff.mp made
  have keeps : fs.KeepsDirectories (fs.put (name :: here) .directory) :=
    keepsDirectories_put (free ▸ nofun)
  have there : (fs.put (name :: here) .directory).get? (name :: here) = some .directory := by
    rw [get?_put (List.cons_ne_nil name here), if_pos rfl]
  rw [isDirectory, resolve_eq_named_iff.mpr (keeps.leadsTo leads)]
  exact beq_iff_eq.mpr there

theorem isDirectory_of_ensureDirectory {q : Path} (made : fs.ensureDirectory q = .ok after) :
    after.isDirectory q = true := by
  unfold ensureDirectory at made
  split at made
  · next first =>
    cases made
    exact isDirectory_of_makeDirectory first
  · split at made
    · next there =>
      cases made
      exact there
    · cases made

/-- If making a directory succeeds, it is there afterwards. -/
theorem isDirectory_of_makeDirectories {p : Path} (spelt : p.text ≠ "")
    (made : fs.makeDirectories p = (.ok (), after)) : after.isDirectory p = true := by
  rw [makeDirectories, Path.lineage_of_nonempty spelt, makeLineage] at made
  split at made
  · next first =>
    cases made
    exact isDirectory_of_makeDirectory first
  · split at made
    · cases made
    · split at made
      · next ensured =>
        cases made
        exact isDirectory_of_ensureDirectory ensured
      · cases made
  · split at made
    · next there =>
      cases made
      exact there
    · cases made

/-- Nothing is made in place of a directory that is there. -/
theorem makeDirectory_of_isDirectory {p : Path} (there : fs.isDirectory p = true) :
    fs.makeDirectory p = .error .alreadyExists := by
  unfold isDirectory at there
  unfold makeDirectory
  cases resolved : fs.resolve p with
  | error fault =>
    rw [resolved] at there
    cases there
  | ok target =>
    rw [resolved] at there
    cases target with
    | directory route => rfl
    | named here name slashed =>
      have used : fs.get? (name :: here) = some .directory := beq_iff_eq.mp there
      simp only [bind, Except.bind, used]

theorem makeDirectories_of_isDirectory {p : Path} (there : fs.isDirectory p = true) :
    fs.makeDirectories p = (.ok (), fs) := by
  have spelt : p.text ≠ "" := by
    intro empty
    have nowhere : fs.isDirectory ⟨""⟩ = false := rfl
    rw [← empty, there] at nowhere
    cases nowhere
  rw [makeDirectories, Path.lineage_of_nonempty spelt, makeLineage, makeDirectory_of_isDirectory there]
  simp only [there, if_true]

/-! ## Writing into a directory -/

/-- A name without a slash, joined to a directory, leads into the directory. -/
theorem LeadsTo.of_join {directory : Path} {here : Route} {name file : String} {slashed : Bool}
    (inside : '/' ∉ file.toList) (spelt : file ≠ "")
    (leads : fs.LeadsTo (directory.join file) here name slashed) :
    name = file ∧ fs.Opens directory here := by
  obtain ⟨before, cut, walked⟩ := leads.walked
  obtain ⟨parents, joined, whole⟩ := directory.pieces_join inside
  have named : file.isEmpty = false := by
    rw [Bool.eq_false_iff, Ne, String.isEmpty_iff]
    exact spelt
  rw [joined, List.reverse_append, List.reverse_singleton, List.singleton_append, lastPiece?, named,
    if_neg Bool.false_ne_true] at cut
  have same : fs.start (directory.join file) = fs.start directory := by
    rw [start, start, directory.isAbsolute_join inside]
  rw [same] at walked
  cases cut
  rw [List.reverse_reverse] at walked
  refine ⟨rfl, ?_⟩
  rw [Opens]
  rcases whole with whole | whole
  · rw [whole, walked]
  · -- An empty piece behind the last slash stands for nothing.
    rw [whole, walk_append walked]
    rfl

/-- What is written under a name in a directory stands there under the name, in place of no
directory. -/
theorem write_join {directory : Path} {file content : String} (inside : '/' ∉ file.toList)
    (spelt : file ≠ "") (written : fs.write (directory.join file) content = .ok after) :
    ∃ here, after.Opens directory here ∧ fs.KeepsDirectories after ∧
      fs.get? (file :: here) ≠ some .directory ∧
      after = fs.put (file :: here) (.text content) := by
  obtain ⟨here, name, leads, free, stored⟩ := write_ok_iff.mp written
  obtain ⟨same, opened⟩ := leads.of_join inside spelt
  rw [same] at free stored
  subst stored
  have keeps : fs.KeepsDirectories (fs.put (file :: here) (.text content)) :=
    keepsDirectories_put free
  exact ⟨here, keeps.opens opened, keeps, free, rfl⟩

/-- Nothing is written under an empty name or one of the two names made of dots. -/
theorem write_join_error {name : String} (unfit : name = "" ∨ name = "." ∨ name = "..")
    (fs : FileSystem) (directory : Path) (content : String) :
    ∃ fault, fs.write (directory.join name) content = .error fault := by
  cases wrote : fs.write (directory.join name) content with
  | error fault => exact ⟨fault, rfl⟩
  | ok after =>
    obtain ⟨here, file, leads, -, -⟩ := write_ok_iff.mp wrote
    rcases unfit with rfl | dots
    · rcases directory.join_empty with empty | slashed
      · exact absurd (String.isEmpty_iff.mpr empty) (Bool.eq_false_iff.mp leads.nonempty)
      · exact absurd slashed (Bool.eq_false_iff.mp leads.ending)
    · have inside : '/' ∉ name.toList ∧ name ≠ "" := by
        rcases dots with rfl | rfl
        · decide
        · decide
      obtain ⟨rfl, -⟩ := leads.of_join inside.1 inside.2
      exact absurd dots leads.noDots

end HandlerWiring.FileSystem
