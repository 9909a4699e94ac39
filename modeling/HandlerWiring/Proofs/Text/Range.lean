import HandlerWiring.Text.Alphabetic

/-!
# Runs that lie within tables

Whether a table of code points is a part of some others is decided run by run, from the front of
each table, without going through the code points. A positive answer is correct for any tables;
only tables in increasing order get one.
-/

namespace HandlerWiring.Text.Ranges

theorem contains_iff {runs : Ranges} {c : Char} :
    runs.contains c = true ↔ ∃ run ∈ runs, run.1 ≤ c.toNat ∧ c.toNat ≤ run.2 := by
  simp only [contains, List.any_eq_true, Bool.and_eq_true, decide_eq_true_eq]

theorem contains_cons {run : Nat × Nat} {runs : Ranges} {c : Char} :
    contains (run :: runs) c = true ↔
      (run.1 ≤ c.toNat ∧ c.toNat ≤ run.2) ∨ runs.contains c = true := by
  rw [contains, List.any_cons, Bool.or_eq_true, Bool.and_eq_true, decide_eq_true_eq,
    decide_eq_true_eq]
  rfl

/-- A table without the runs that end before a code point. -/
def startingAt (first : Nat) (table : Ranges) : Ranges := table.dropWhile (·.2 < first)

theorem contains_of_startingAt {first : Nat} {table : Ranges} {c : Char}
    (h : (table.startingAt first).contains c = true) : table.contains c = true := by
  obtain ⟨run, among, bounds⟩ := contains_iff.mp h
  exact contains_iff.mpr ⟨run, (List.dropWhile_sublist _).mem among, bounds⟩

/-- A run at the front of one of the tables that starts no later than a code point. -/
def frontRun? (tables : List Ranges) (first : Nat) : Option (Nat × Nat) :=
  (tables.filterMap List.head?).find? (·.1 ≤ first)

theorem of_frontRun? {tables : List Ranges} {first : Nat} {run : Nat × Nat}
    (found : frontRun? tables first = some run) :
    run.1 ≤ first ∧ ∃ table ∈ tables, run ∈ table := by
  rw [frontRun?] at found
  have starts := List.find?_some found
  obtain ⟨table, among, front⟩ := List.mem_filterMap.mp (List.mem_of_find?_eq_some found)
  exact ⟨decide_eq_true_eq.mp starts, table, among, List.mem_of_head? front⟩

/-- What is left of a run and those after it once it is settled up to a code point. -/
def leftAfter (reached last : Nat) (runs : Ranges) : Ranges :=
  if last ≤ reached then runs else (reached + 1, last) :: runs

theorem contains_leftAfter {first last : Nat} {runs : Ranges} {c : Char} (reached : Nat)
    (h : contains ((first, last) :: runs) c = true) :
    (first ≤ c.toNat ∧ c.toNat ≤ reached) ∨ (leftAfter reached last runs).contains c = true := by
  unfold leftAfter
  rcases contains_cons.mp h with ⟨lower, upper⟩ | later
  · by_cases settled : c.toNat ≤ reached
    · exact .inl ⟨lower, settled⟩
    · have beyond : ¬last ≤ reached := by omega
      rw [if_neg beyond]
      exact .inr (contains_cons.mpr (.inl ⟨by omega, upper⟩))
  · right
    split
    · exact later
    · exact contains_cons.mpr (.inr later)

/-- Whether each run lies within the tables, found out in some rounds. One round settles a run or
the part of it that a run of a table has. -/
def withinAfter (tables : List Ranges) : Nat → Ranges → Bool
  | _, [] => true
  | 0, _ :: _ => false
  | rounds + 1, (first, last) :: runs =>
    let tables := tables.map (startingAt first)
    match frontRun? tables first with
    | none => false
    | some front => withinAfter tables rounds (leftAfter front.2 last runs)

/-- Whether each run lies within the tables. No more rounds are needed than all of them have
runs. -/
def within (tables : List Ranges) (runs : Ranges) : Bool :=
  withinAfter tables (runs.length + tables.flatten.length) runs

theorem contains_of_withinAfter {tables : List Ranges} {rounds : Nat} {runs : Ranges} {c : Char}
    (checked : withinAfter tables rounds runs = true) (inside : runs.contains c = true) :
    ∃ table ∈ tables, table.contains c = true := by
  fun_induction withinAfter tables rounds runs with
  | case1 => cases inside
  | case2 => cases checked
  | case3 => cases checked
  | case4 tables rounds first last runs trimmed front found ih =>
    have shrunk : ∃ table ∈ trimmed, table.contains c = true := by
      rcases contains_leftAfter front.2 inside with ⟨lower, upper⟩ | later
      · obtain ⟨starts, table, among, member⟩ := of_frontRun? found
        have bounds : front.1 ≤ c.toNat := Nat.le_trans starts lower
        exact ⟨table, among, contains_iff.mpr ⟨front, member, bounds, upper⟩⟩
      · exact ih checked later
    obtain ⟨table, among, holds⟩ := shrunk
    obtain ⟨whole, member, rfl⟩ := List.mem_map.mp among
    exact ⟨whole, member, contains_of_startingAt holds⟩

/-- What lies within the tables has each of its characters in one of them. -/
theorem contains_of_within {tables : List Ranges} {runs : Ranges} {c : Char}
    (checked : within tables runs = true) (inside : runs.contains c = true) :
    ∃ table ∈ tables, table.contains c = true :=
  contains_of_withinAfter checked inside

end HandlerWiring.Text.Ranges
