import HandlerWiring.Dictionary

/-!
# Dictionaries from their entries

Writing the entries of a dictionary into the empty one, in any layout that keeps their order, gives
the dictionary back: each key is larger than those before it, so it is written behind them. What a
key holds after some writes is what was last written under it, and what it held before if nothing
was.
-/

namespace HandlerWiring.Dictionary

/-- A key larger than all others is written behind them. -/
theorem insertEntry_of_forall_lt {key value : String} {entries : List (String × String)}
    (h : ∀ entry ∈ entries, entry.1 < key) :
    insertEntry key value entries = entries ++ [(key, value)] := by
  induction entries with
  | nil => rfl
  | cons head rest ih =>
    obtain ⟨k, v⟩ := head
    have smaller : k < key := h (k, v) List.mem_cons_self
    have behind := ih fun entry hmem => h entry (List.mem_cons_of_mem _ hmem)
    rw [insertEntry, if_neg (String.lt_asymm smaller), if_pos smaller, behind, List.cons_append]

/-- Entries in increasing order, all behind those of a dictionary, are appended to it. -/
theorem entries_insertAll {entries : List (String × String)}
    (ordered : entries.Pairwise (·.1 < ·.1)) (d : Dictionary)
    (behind : ∀ a ∈ d.entries, ∀ b ∈ entries, a.1 < b.1) :
    (d.insertAll entries).entries = d.entries ++ entries := by
  induction entries generalizing d with
  | nil => exact (List.append_nil _).symm
  | cons head rest ih =>
    obtain ⟨key, value⟩ := head
    obtain ⟨first, later⟩ := List.pairwise_cons.mp ordered
    have written : (d.insert key value).entries = d.entries ++ [(key, value)] :=
      insertEntry_of_forall_lt fun a ha => behind a ha (key, value) List.mem_cons_self
    have run := ih later (d.insert key value) <| by
      intro a ha b hb
      rw [written, List.mem_append, List.mem_singleton] at ha
      rcases ha with ha | rfl
      · exact behind a ha b (List.mem_cons_of_mem _ hb)
      · exact first b hb
    rw [insertAll, List.foldl_cons, ← insertAll, run, written, List.append_assoc,
      List.singleton_append]

/-- A dictionary is what results from writing its entries. -/
theorem ofList_entries (d : Dictionary) : ofList d.entries = d := by
  have h := entries_insertAll d.ordered empty fun a ha => (List.not_mem_nil ha).elim
  cases d
  rw [Dictionary.mk.injEq]
  exact h

/-- Writing a key changes no entry of another key. -/
theorem find?_insertEntry_of_ne {key other : String} (different : other ≠ key) (value : String)
    (entries : List (String × String)) :
    (insertEntry key value entries).find? (·.1 = other) = entries.find? (·.1 = other) := by
  have unlike : decide (key = other) = false := decide_eq_false different.symm
  induction entries with
  | nil => simp only [insertEntry, List.find?_cons, unlike]
  | cons head rest ih =>
    obtain ⟨k, v⟩ := head
    rw [insertEntry]
    split
    · simp only [List.find?_cons, unlike]
    · split
      · rw [List.find?_cons, ih, List.find?_cons]
      · next notSmaller notLarger =>
        -- The entry of the written key itself is replaced.
        have same : key = k :=
          String.le_antisymm (String.not_lt.mp notLarger) (String.not_lt.mp notSmaller)
        subst same
        simp only [List.find?_cons, unlike]

/-- What another key holds stays when a key is written. -/
theorem get?_insert_of_ne {key other : String} (different : other ≠ key) (value : String)
    (d : Dictionary) : (d.insert key value).get? other = d.get? other := by
  rw [get?, insert, find?_insertEntry_of_ne different, get?]

/-- Writing a key leaves an entry of that key. -/
theorem find?_insertEntry_self (key value : String) (entries : List (String × String)) :
    (insertEntry key value entries).find? (·.1 = key) = some (key, value) := by
  induction entries with
  | nil => simp [insertEntry]
  | cons head rest ih =>
    obtain ⟨k, v⟩ := head
    rw [insertEntry]
    split
    · simp
    · split
      · next larger =>
        -- The entry in front is of another key.
        have unlike : k ≠ key := String.ne_of_lt larger
        simpa [unlike] using ih
      · simp

/-- A write shows under its own key and nowhere else. -/
theorem get?_insert (key value other : String) (d : Dictionary) :
    (d.insert key value).get? other = if other = key then some value else d.get? other := by
  by_cases same : other = key
  · subst same
    rw [get?, insert, find?_insertEntry_self, if_pos rfl]
    rfl
  · rw [get?_insert_of_ne same, if_neg same]

/-- The value of the last of some entries under a key. -/
def lastUnder? (key : String) (entries : List (String × String)) : Option String :=
  (entries.reverse.find? (·.1 = key)).map (·.2)

/-- The last entry under a key is behind the first one, if there is any behind. -/
theorem lastUnder?_cons (key : String) (entry : String × String)
    (entries : List (String × String)) :
    lastUnder? key (entry :: entries) =
      (lastUnder? key entries).or (if entry.1 = key then some entry.2 else none) := by
  rw [lastUnder?, List.reverse_cons, List.find?_append, Option.map_or, lastUnder?]
  congr 1
  by_cases same : entry.1 = key
  · simp [same]
  · simp [same]

/-- After some writes a key holds what was last written under it, else what it held before. -/
theorem get?_insertAll (entries : List (String × String)) (d : Dictionary) (key : String) :
    (d.insertAll entries).get? key = (lastUnder? key entries).or (d.get? key) := by
  induction entries generalizing d with
  | nil => rfl
  | cons entry rest ih =>
    have first : (d.insert entry.1 entry.2).get? key =
        (if entry.1 = key then some entry.2 else none).or (d.get? key) := by
      rw [get?_insert]
      by_cases same : key = entry.1
      · rw [if_pos same, if_pos same.symm, Option.some_or]
      · rw [if_neg same, if_neg (Ne.symm same), Option.none_or]
    have run := ih (d.insert entry.1 entry.2)
    rw [first, ← Option.or_assoc, ← lastUnder?_cons] at run
    exact run

/-- The empty dictionary holds nothing. -/
@[simp] theorem get?_empty (key : String) : empty.get? key = none := rfl

/-- What is last under a key among the entries of a dictionary is what the key holds. -/
theorem lastUnder?_entries (d : Dictionary) (key : String) :
    lastUnder? key d.entries = d.get? key := by
  have written := get?_insertAll d.entries empty key
  rw [← ofList, ofList_entries, get?_empty, Option.or_none] at written
  exact written.symm

/-- Under a key that no entry has, none is last. -/
theorem lastUnder?_eq_none {key : String} {entries : List (String × String)}
    (foreign : key ∉ entries.map (·.1)) : lastUnder? key entries = none := by
  rw [lastUnder?, Option.map_eq_none_iff, List.find?_eq_none]
  intro entry among same
  rw [decide_eq_true_eq] at same
  exact foreign (List.mem_map.mpr ⟨entry, List.mem_reverse.mp among, same⟩)

/-- Of entries with different keys each is the last under its own. -/
theorem lastUnder?_of_mem {key value : String} {entries : List (String × String)}
    (distinct : (entries.map (·.1)).Nodup) (among : (key, value) ∈ entries) :
    lastUnder? key entries = some value := by
  induction entries with
  | nil => cases among
  | cons entry rest ih =>
    obtain ⟨foreign, others⟩ := List.nodup_cons.mp distinct
    rw [lastUnder?_cons]
    rcases List.mem_cons.mp among with rfl | later
    · rw [lastUnder?_eq_none foreign, Option.none_or, if_pos rfl]
    · rw [ih others later, Option.some_or]

/-- Entries with different keys are all found in the dictionary they are written into. -/
theorem get?_ofList_of_mem {key value : String} {entries : List (String × String)}
    (distinct : (entries.map (·.1)).Nodup) (among : (key, value) ∈ entries) :
    (ofList entries).get? key = some value := by
  rw [ofList, get?_insertAll, lastUnder?_of_mem distinct among, Option.some_or]

/-! ## Dictionaries with the same look-ups -/

/-- A key holds a value if and only if the entry is there. -/
theorem get?_eq_some_iff (d : Dictionary) (key value : String) :
    d.get? key = some value ↔ (key, value) ∈ d.entries := by
  constructor
  · intro held
    obtain ⟨entry, found, rfl⟩ := Option.map_eq_some_iff.mp held
    have same : entry.1 = key := by simpa using List.find?_some found
    subst same
    exact List.mem_of_find?_eq_some found
  · intro stands
    obtain ⟨before, behind, split⟩ := List.append_of_mem stands
    have ordered := d.ordered
    rw [split, List.pairwise_append] at ordered
    -- The keys before it are smaller, so the entry is the first under its key.
    have smaller : ∀ entry ∈ before, entry.1 ≠ key := fun entry hmem =>
      String.ne_of_lt (ordered.2.2 entry hmem (key, value) List.mem_cons_self)
    have first : before.find? (·.1 = key) = none := by
      simpa [List.find?_eq_none] using smaller
    rw [get?, split, List.find?_append, first, Option.none_or, List.find?_cons_of_pos (by simp)]
    rfl

/-- Two dictionaries that hold the same under every key are the same. -/
theorem ext_get? {d e : Dictionary} (same : ∀ key, d.get? key = e.get? key) : d = e := by
  have members (entry : String × String) : entry ∈ d.entries ↔ entry ∈ e.entries := by
    rw [← get?_eq_some_iff, ← get?_eq_some_iff, same]
  have distinct (d : Dictionary) : d.entries.Nodup :=
    d.ordered.imp fun lower equal => String.ne_of_lt lower (congrArg Prod.fst equal)
  have perm := (List.perm_ext_iff_of_nodup (distinct d) (distinct e)).mpr members
  have entries := perm.eq_of_pairwise
    (fun a b _ _ lower upper => absurd lower (String.lt_asymm upper)) d.ordered e.ordered
  cases d
  cases e
  cases entries
  rfl

/-- What results from writing entries depends on the last one under each key alone. -/
theorem ofList_congr {entries entries' : List (String × String)}
    (same : ∀ key, lastUnder? key entries = lastUnder? key entries') :
    ofList entries = ofList entries' := by
  refine ext_get? fun key => ?_
  rw [ofList, get?_insertAll, ofList, get?_insertAll, same]

end HandlerWiring.Dictionary
