import Mathlib.Data.Finset.Card
import Mathlib.Logic.Relation
import HandlerWiring.Pass
import HandlerWiring.Proofs.Declaration.Snapshot
import HandlerWiring.Proofs.Dictionary
import HandlerWiring.Proofs.Text.Bytes

/-!
# Dictionaries written to step by step

Whatever operations write into a dictionary, it comes to one list of writes, and of this list only
the last write to each key counts. The keys stand in the order of their bytes, each of them once, so
dictionaries that hold the same are the same, and so are the texts and digests of snapshots that
have them as options. Writes to different keys may change places.

Two snapshots whose options differ have different texts. Of their digests nothing is said.
-/

namespace HandlerWiring

/-- A name that does not start as build-wide keys do may be given with that start. -/
theorem buildPropertyKey_append {name : String} (bare : ¬buildStem.toList <+: name.toList) :
    buildPropertyKey (buildStem ++ name) = buildPropertyKey name := by
  have full : buildStem.toList <+: (buildStem ++ name).toList := by
    rw [String.toList_append]
    exact List.prefix_append _ _
  rw [buildPropertyKey, if_pos (List.isPrefixOf_iff_prefix.mpr full), buildPropertyKey,
    if_neg (mt List.isPrefixOf_iff_prefix.mp bare)]

namespace Dictionary

/-! ## Operations -/

/-- One of the ways to write into a dictionary. -/
inductive Operation where
  | insert (key value : String)
  | insertBuildProperty (name value : String)
  | insertAll (entries : List (String × String))
deriving DecidableEq, Repr

namespace Operation

/-- The entries that an operation writes, the first one first. -/
def writes : Operation → List (String × String)
  | .insert key value => [(key, value)]
  | .insertBuildProperty name value => [(buildPropertyKey name, value)]
  | .insertAll entries => entries

/-- The dictionary after an operation. -/
def perform (d : Dictionary) : Operation → Dictionary
  | .insert key value => d.insert key value
  | .insertBuildProperty name value => d.insertBuildProperty name value
  | .insertAll entries => d.insertAll entries

theorem perform_eq_insertAll (d : Dictionary) (o : Operation) :
    perform d o = d.insertAll o.writes := by
  cases o with
  | insert key value => rfl
  | insertBuildProperty name value => rfl
  | insertAll entries => rfl

end Operation

/-- The dictionary that starts with some entries, after operations one after the other. -/
def ofOperations (initial : List (String × String)) (operations : List Operation) : Dictionary :=
  operations.foldl Operation.perform (ofList initial)

/-- The writes to a dictionary that starts with some entries. -/
def allWrites (initial : List (String × String)) (operations : List Operation) :
    List (String × String) :=
  initial ++ operations.flatMap Operation.writes

theorem insertAll_append (d : Dictionary) (entries entries' : List (String × String)) :
    d.insertAll (entries ++ entries') = (d.insertAll entries).insertAll entries' :=
  List.foldl_append

/-- Operations come to their writes. -/
theorem ofOperations_eq (initial : List (String × String)) (operations : List Operation) :
    ofOperations initial operations = ofList (allWrites initial operations) := by
  have run (d : Dictionary) : operations.foldl Operation.perform d =
      d.insertAll (operations.flatMap Operation.writes) := by
    induction operations generalizing d with
    | nil => rfl
    | cons o rest ih =>
      rw [List.foldl_cons, ih, Operation.perform_eq_insertAll, List.flatMap_cons,
        insertAll_append]
  rw [ofOperations, run, allWrites, ofList, ofList, insertAll_append]

/-! ## The last write to a key -/

variable {key value : String} {entries entries' : List (String × String)}

/-- An entry is the last under its key if no entry behind it has that key. -/
theorem lastUnder?_eq_some_iff :
    lastUnder? key entries = some value ↔
      ∃ before behind, entries = before ++ (key, value) :: behind ∧ key ∉ behind.map (·.1) := by
  constructor
  · intro last
    obtain ⟨⟨k, v⟩, found, rfl⟩ := Option.map_eq_some_iff.mp last
    obtain ⟨same, behind, before, split, others⟩ := List.find?_eq_some_iff_append.mp found
    have same : k = key := of_decide_eq_true same
    subst same
    refine ⟨before.reverse, behind.reverse, ?_, ?_⟩
    · rw [← List.reverse_reverse entries, split, List.reverse_append, List.reverse_cons,
        List.append_assoc, List.singleton_append]
    · intro among
      obtain ⟨entry, mem, equal⟩ := List.mem_map.mp among
      have other := others entry (List.mem_reverse.mp mem)
      rw [equal, decide_eq_true rfl] at other
      cases other
  · rintro ⟨before, behind, rfl, last⟩
    have passed : behind.reverse.find? (·.1 = key) = none := by
      rw [List.find?_eq_none]
      intro entry mem same
      exact last (List.mem_map.mpr ⟨entry, List.mem_reverse.mp mem, of_decide_eq_true same⟩)
    rw [lastUnder?, List.reverse_append, List.reverse_cons, List.append_assoc, List.find?_append,
      passed, Option.none_or, List.singleton_append, List.find?_cons_of_pos (by simp)]
    rfl

/-- None is last under a key exactly if no entry has it. -/
theorem lastUnder?_eq_none_iff : lastUnder? key entries = none ↔ key ∉ entries.map (·.1) := by
  refine ⟨fun nothing among => ?_, lastUnder?_eq_none⟩
  obtain ⟨entry, mem, rfl⟩ := List.mem_map.mp among
  have passed := List.find?_eq_none.mp (Option.map_eq_none_iff.mp nothing) entry
    (List.mem_reverse.mpr mem)
  exact passed (decide_eq_true rfl)

theorem get?_ofList (entries : List (String × String)) (key : String) :
    (ofList entries).get? key = lastUnder? key entries := by
  rw [ofList, get?_insertAll, get?_empty, Option.or_none]

/-! ## Keys -/

/-- The keys of a dictionary stand in the order of their bytes. -/
theorem keys_ascend (d : Dictionary) :
    (d.entries.map (·.1)).Pairwise fun k k' => Text.bytes k < Text.bytes k' :=
  List.pairwise_map.mpr (d.ordered.imp Text.lt_iff_bytes_lt.mp)

theorem nodup_keys (d : Dictionary) : (d.entries.map (·.1)).Nodup :=
  List.pairwise_map.mpr (d.ordered.imp String.ne_of_lt)

/-- A key that holds something is one of the keys. -/
theorem mem_keys_iff (d : Dictionary) : key ∈ d.entries.map (·.1) ↔ d.get? key ≠ none := by
  rw [← lastUnder?_entries, Ne, lastUnder?_eq_none_iff, Classical.not_not]

/-- The keys are those that were written. -/
theorem mem_keys_ofList : key ∈ (ofList entries).entries.map (·.1) ↔ key ∈ entries.map (·.1) := by
  rw [mem_keys_iff, get?_ofList, Ne, lastUnder?_eq_none_iff, Classical.not_not]

/-- There are as many keys as different ones were written. -/
theorem size_ofList (entries : List (String × String)) :
    (ofList entries).size = (entries.map (·.1)).toFinset.card := by
  have same : (entries.map (·.1)).toFinset = ((ofList entries).entries.map (·.1)).toFinset := by
    ext key
    rw [List.mem_toFinset, List.mem_toFinset, mem_keys_ofList]
  rw [same, List.toFinset_card_of_nodup (nodup_keys _), List.length_map, size]

/-- Nothing is there exactly if nothing was written. -/
theorem isEmpty_ofList : (ofList entries).isEmpty = true ↔ entries = [] := by
  rw [isEmpty, List.isEmpty_iff]
  constructor
  · intro nothing
    cases entries with
    | nil => rfl
    | cons entry rest =>
      have there : entry.1 ∈ (ofList (entry :: rest)).entries.map (·.1) :=
        mem_keys_ofList.mpr List.mem_cons_self
      rw [nothing] at there
      cases there
  · rintro rfl
    rfl

/-! ## Writes in another order -/

/-- Two neighbouring writes to different keys change places. -/
inductive Exchanged : List (String × String) → List (String × String) → Prop where
  | swap {a b : String × String} (different : a.1 ≠ b.1) (before behind : List (String × String)) :
    Exchanged (before ++ a :: b :: behind) (before ++ b :: a :: behind)

/-- The last write to a key stays when two neighbours with different keys change places. -/
theorem Exchanged.lastUnder? (h : Exchanged entries entries') (key : String) :
    Dictionary.lastUnder? key entries = Dictionary.lastUnder? key entries' := by
  cases h with
  | @swap a b different before behind =>
    induction before with
    | nil =>
      simp only [List.nil_append, lastUnder?_cons, Option.or_assoc]
      congr 1
      -- At most one of the two is a write to the key.
      by_cases first : a.1 = key
      · have second : b.1 ≠ key := fun same => different (first.trans same.symm)
        rw [if_pos first, if_neg second, Option.none_or, Option.or_none]
      · rw [if_neg first, Option.or_none, Option.none_or]
    | cons entry rest ih =>
      rw [List.cons_append, List.cons_append, lastUnder?_cons, lastUnder?_cons, ih]

/-- Writes in another order come to the same dictionary if those to each key keep theirs. -/
theorem ofList_of_exchanged (h : Relation.EqvGen Exchanged entries entries') :
    ofList entries = ofList entries' := by
  induction h with
  | rel _ _ change => exact ofList_congr change.lastUnder?
  | refl _ => rfl
  | symm _ _ _ ih => exact ih.symm
  | trans _ _ _ _ _ first second => exact first.trans second

/-! ## Options of a snapshot -/

/-- A dictionary after any operations. Its keys stand in the order of their bytes, each of them once.
Each key holds what was last written to it, and nothing if it was not written; a build-wide property
is written to its full key, whichever of its two names is given. There are as many keys as different
ones were written, and none exactly if nothing was. So dictionaries that hold the same are the same,
also those whose writes stand in another order, as long as writes to one key do not change places.
A snapshot has the same text with two of them exactly if they hold the same, and then the same
digest. -/
theorem last_write_decides (initial : List (String × String)) (operations : List Operation) :
    let written := allWrites initial operations
    let d := ofOperations initial operations
    (d.entries.map (·.1)).Pairwise (fun k k' => Text.bytes k < Text.bytes k') ∧
      (∀ key value, d.get? key = some value ↔
        ∃ before behind, written = before ++ (key, value) :: behind ∧ key ∉ behind.map (·.1)) ∧
      (∀ key, d.get? key = none ↔ key ∉ written.map (·.1)) ∧
      (∀ name value,
        (buildStem.toList <+: name.toList →
          (Operation.insertBuildProperty name value).writes = [(name, value)]) ∧
        (¬buildStem.toList <+: name.toList →
          (Operation.insertBuildProperty name value).writes = [(buildStem ++ name, value)] ∧
          (Operation.insertBuildProperty (buildStem ++ name) value).writes =
            [(buildStem ++ name, value)])) ∧
      d.size = (written.map (·.1)).toFinset.card ∧
      (d.isEmpty = true ↔ written = []) ∧
      ∀ initial' operations',
        let written' := allWrites initial' operations'
        let d' := ofOperations initial' operations'
        ((∀ key, d.get? key = d'.get? key) ↔ d = d') ∧
        (Relation.EqvGen Exchanged written written' → d = d') ∧
        ∀ s : Snapshot,
          ((∀ key, d.get? key = d'.get? key) ↔
            Snapshot.form.compact { s with options := d } =
              Snapshot.form.compact { s with options := d' }) ∧
          ((∀ key, d.get? key = d'.get? key) →
            ({ s with options := d } : Snapshot).hash =
              ({ s with options := d' } : Snapshot).hash) := by
  intro written d
  have comes : d = ofList written := ofOperations_eq initial operations
  have holds (key : String) : d.get? key = lastUnder? key written := by
    rw [comes, get?_ofList]
  refine ⟨keys_ascend d, ?_, ?_, ?_, ?_, ?_, ?_⟩
  · intro key value
    rw [holds, lastUnder?_eq_some_iff]
  · intro key
    rw [holds, lastUnder?_eq_none_iff]
  · intro name value
    refine ⟨fun full => ?_, fun bare => ?_⟩
    · rw [Operation.writes, buildPropertyKey, if_pos (List.isPrefixOf_iff_prefix.mpr full)]
    · have key : buildPropertyKey name = buildStem ++ name := by
        rw [buildPropertyKey, if_neg (mt List.isPrefixOf_iff_prefix.mp bare)]
      rw [Operation.writes, Operation.writes, buildPropertyKey_append bare, key]
      exact ⟨rfl, rfl⟩
  · rw [comes, size_ofList]
  · rw [comes, isEmpty_ofList]
  · intro initial' operations' written' d'
    have comes' : d' = ofList written' := ofOperations_eq initial' operations'
    have alike : (∀ key, d.get? key = d'.get? key) ↔ d = d' := by
      refine ⟨ext_get?, ?_⟩
      intro same key
      rw [same]
    refine ⟨alike, fun exchanged => ?_, fun s => ⟨?_, fun equal => ?_⟩⟩
    · rw [comes, comes', ofList_of_exchanged exchanged]
    · rw [alike]
      constructor
      · intro same
        rw [same]
      · intro same
        exact congrArg Snapshot.options (Snapshot.form_readable.compact_injective same)
    · rw [alike.mp equal]

end Dictionary

end HandlerWiring
