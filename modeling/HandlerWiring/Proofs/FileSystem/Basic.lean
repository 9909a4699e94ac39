import HandlerWiring.FileSystem.Basic

/-!
# Reading what was written

A walk that goes through goes through in every file system that keeps the directories. A file that
is written takes the place of no directory. So a path leads to the same name as before, and what
was written is read there.
-/

namespace HandlerWiring.FileSystem

/-! ## Entries -/

theorem find?_putEntry (route r : Route) (entry : Entry) (entries : List (Route × Entry)) :
    ((putEntry route entry entries).find? (·.1 = r)).map (·.2) =
      if r = route then some entry else (entries.find? (·.1 = r)).map (·.2) := by
  induction entries with
  | nil =>
    by_cases same : r = route
    · simp [putEntry, same]
    · simp [putEntry, same, Ne.symm same]
  | cons head rest ih =>
    obtain ⟨here, there⟩ := head
    rw [putEntry]
    by_cases met : here = route
    · rw [if_pos met]
      by_cases same : r = route
      · simp [same]
      · have other : ¬here = r := fun h => same (h.symm.trans met)
        simp [same, other, Ne.symm same]
    · rw [if_neg met]
      by_cases same : here = r
      · have other : ¬r = route := fun h => met (same.trans h)
        simp [same, other]
      · simpa [List.find?_cons, same] using ih

/-- What is written at a location is there, and nothing else has changed. -/
theorem get?_put {fs : FileSystem} {route : Route} {entry : Entry} (below : route ≠ [])
    (r : Route) : (fs.put route entry).get? r = if r = route then some entry else fs.get? r := by
  cases r with
  | nil => rw [if_neg (Ne.symm below)]; rfl
  | cons name here => exact find?_putEntry route (name :: here) entry fs.entries

/-! ## Walks -/

/-- What is a directory in one file system is a directory in the other, and both are worked in at
the same place. -/
structure KeepsDirectories (fs after : FileSystem) : Prop where
  working : after.working = fs.working
  directory {route : Route} (there : fs.get? route = some .directory) :
    after.get? route = some .directory

variable {fs : FileSystem} {route : Route} {entry : Entry}

/-- What is no directory is below the root. -/
theorem ne_nil_of_get?_ne (h : fs.get? route ≠ some .directory) : route ≠ [] := by
  rintro rfl
  exact h rfl

/-- Writing in place of no directory keeps the directories. -/
theorem keepsDirectories_put (h : fs.get? route ≠ some .directory) :
    fs.KeepsDirectories (fs.put route entry) := by
  refine ⟨rfl, fun {other} there => ?_⟩
  have different : other ≠ route := by
    rintro rfl
    exact h there
  rw [get?_put (ne_nil_of_get?_ne h), if_neg different, there]

/-- Where one could enter before, one can enter where the directories are kept. -/
theorem KeepsDirectories.enter {after : FileSystem} (keeps : fs.KeepsDirectories after)
    {here next : Route} {piece : String} (entered : fs.enter here piece = .ok next) :
    after.enter here piece = .ok next := by
  unfold FileSystem.enter at entered ⊢
  split at entered
  · next idle => rw [if_pos idle, entered]
  next idle =>
  rw [if_neg idle]
  split at entered
  · next up => rw [if_pos up, entered]
  next up =>
  rw [if_neg up]
  split at entered
  · cases entered
  next short =>
  rw [if_neg short]
  split at entered
  · cases entered
  · next found => rw [keeps.directory found, entered]
  · cases entered

/-- A walk that went through before goes through where the directories are kept. -/
theorem KeepsDirectories.walk {after : FileSystem} (keeps : fs.KeepsDirectories after)
    {pieces : List String} {here there : Route} (walked : fs.walk here pieces = .ok there) :
    after.walk here pieces = .ok there := by
  induction pieces generalizing here with
  | nil => exact walked
  | cons piece rest ih =>
    rw [FileSystem.walk] at walked ⊢
    cases entered : fs.enter here piece with
    | error fault =>
      rw [entered] at walked
      cases walked
    | ok next =>
      rw [entered] at walked
      rw [keeps.enter entered]
      exact ih walked

/-! ## Paths -/

/-- Where the walk of a path starts. -/
def start (fs : FileSystem) (p : Path) : Route := if p.isAbsolute then [] else fs.working

theorem KeepsDirectories.start {after : FileSystem} (keeps : fs.KeepsDirectories after)
    (p : Path) : after.start p = fs.start p := by
  rw [FileSystem.start, FileSystem.start, keeps.working]

/-- A path leads to a name in a directory: its last piece that is not empty is the name, and the
pieces before it lead to the directory. -/
structure LeadsTo (fs : FileSystem) (p : Path) (here : Route) (name : String) (slashed : Bool) :
    Prop where
  noNul : p.text.toList.contains '\x00' = false
  nonempty : p.text.isEmpty = false
  short : ¬pathLimit ≤ p.text.utf8ByteSize
  noDots : ¬(name = "." ∨ name = "..")
  shortName : ¬nameLimit < name.utf8ByteSize
  ending : p.endsInSlash = slashed
  walked : ∃ before, lastPiece? p.pieces.reverse = some (name, before) ∧
    fs.walk (fs.start p) before.reverse = .ok here

theorem resolve_eq_named_iff {p : Path} {here : Route} {name : String} {slashed : Bool} :
    fs.resolve p = .ok (.named here name slashed) ↔ fs.LeadsTo p here name slashed := by
  constructor
  · intro resolved
    unfold resolve at resolved
    split at resolved
    · cases resolved
    next noNul =>
    split at resolved
    · cases resolved
    next nonempty =>
    split at resolved
    · cases resolved
    next short =>
    dsimp only at resolved
    split at resolved
    · cases resolved
    next last before cut =>
    cases walked : fs.walk (if p.isAbsolute then [] else fs.working) before.reverse with
    | error fault =>
      rw [walked] at resolved
      cases resolved
    | ok there =>
      rw [walked] at resolved
      change (if last = "." ∨ last = ".." then _ else _) = _ at resolved
      split at resolved
      · cases entered : fs.enter there last <;> rw [entered] at resolved <;> cases resolved
      next noDots =>
      split at resolved
      · cases resolved
      next shortName =>
      cases resolved
      exact ⟨Bool.eq_false_iff.mpr noNul, Bool.eq_false_iff.mpr nonempty, short, noDots, shortName,
        rfl, before, cut, walked⟩
  · rintro ⟨noNul, nonempty, short, noDots, shortName, rfl, before, cut, walked⟩
    rw [start] at walked
    simp only [resolve, noNul, nonempty, Bool.false_eq_true, if_false, if_neg short, cut, walked,
      bind, Except.bind, if_neg noDots, if_neg shortName]

/-- A path that led to a name leads there where the directories are kept. -/
theorem KeepsDirectories.leadsTo {after : FileSystem} (keeps : fs.KeepsDirectories after)
    {p : Path} {here : Route} {name : String} {slashed : Bool}
    (leads : fs.LeadsTo p here name slashed) : after.LeadsTo p here name slashed := by
  obtain ⟨before, cut, walked⟩ := leads.walked
  exact { leads with walked := ⟨before, cut, by rw [keeps.start]; exact keeps.walk walked⟩ }

/-! ## Files -/

/-- What a path has to lead to for a file to be written there. -/
theorem write_ok_iff {p : Path} {content : String} {after : FileSystem} :
    fs.write p content = .ok after ↔ ∃ here name, fs.LeadsTo p here name false ∧
      fs.get? (name :: here) ≠ some .directory ∧ after = fs.put (name :: here) (.text content) := by
  simp only [← resolve_eq_named_iff]
  unfold write
  cases resolved : fs.resolve p with
  | error fault => simp [bind, Except.bind]
  | ok target =>
    cases target with
    | directory there => simp [bind, Except.bind]
    | named here name slashed =>
      cases slashed with
      | true => simp [bind, Except.bind]
      | false =>
        by_cases taken : fs.get? (name :: here) = some .directory
        · simp [bind, Except.bind, taken]
        · have free : (fs.get? (name :: here) == some .directory) = false := beq_false_of_ne taken
          simp only [bind, Except.bind, free, Bool.false_or, Bool.false_eq_true, if_false]
          constructor
          · intro same
            exact ⟨here, name, rfl, taken, (Except.ok.inj same).symm⟩
          · rintro ⟨_, _, same, _, rfl⟩
            cases same
            rfl

/-- What was written is read. -/
theorem read_of_write {p : Path} {content : String} {after : FileSystem}
    (written : fs.write p content = .ok after) : after.read p = .ok content := by
  obtain ⟨here, name, leads, free, rfl⟩ := write_ok_iff.mp written
  have there : (fs.put (name :: here) (.text content)).get? (name :: here) =
      some (.text content) := by
    rw [get?_put (List.cons_ne_nil name here), if_pos rfl]
  rw [read, resolve_eq_named_iff.mpr ((keepsDirectories_put free).leadsTo leads)]
  simp only [bind, Except.bind, there, Bool.false_eq_true, if_false]

/-- Whether a file can be written does not depend on what is to be written. -/
theorem write_isOk {p : Path} {content : String} {after : FileSystem}
    (written : fs.write p content = .ok after) (other : String) :
    ∃ after, fs.write p other = .ok after := by
  obtain ⟨here, name, leads, free, rfl⟩ := write_ok_iff.mp written
  exact ⟨_, write_ok_iff.mpr ⟨here, name, leads, free, rfl⟩⟩

end HandlerWiring.FileSystem
