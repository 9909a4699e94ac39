/-!
# Dictionaries

A dictionary maps texts to texts. It is kept as the list of its entries in strictly increasing
order of their keys, compared code point by code point, so two dictionaries with the same entries
are the same value. Writing a key replaces what the key held before: the last write wins.
-/

namespace HandlerWiring

/-- A finite map from texts to texts, its entries in strictly increasing order of keys. -/
structure Dictionary where
  entries : List (String × String)
  ordered : entries.Pairwise (·.1 < ·.1)
deriving DecidableEq

namespace Dictionary

/-- Entries with one more written: before the first larger key, or in place of an equal one. -/
def insertEntry (key value : String) : List (String × String) → List (String × String)
  | [] => [(key, value)]
  | (k, v) :: rest =>
    if key < k then (key, value) :: (k, v) :: rest
    else if k < key then (k, v) :: insertEntry key value rest
    else (key, value) :: rest

/-- Every key after a write was there before or is the one written. -/
theorem mem_insertEntry {key value : String} {entries : List (String × String)}
    {entry : String × String} (h : entry ∈ insertEntry key value entries) :
    entry = (key, value) ∨ entry ∈ entries := by
  induction entries with
  | nil => simpa [insertEntry] using h
  | cons head rest ih =>
    obtain ⟨k, v⟩ := head
    unfold insertEntry at h
    split at h
    · simpa using h
    · split at h
      · rcases List.mem_cons.mp h with h | h
        · exact .inr (by simp [h])
        · rcases ih h with h | h
          · exact .inl h
          · exact .inr (List.mem_cons_of_mem _ h)
      · rcases List.mem_cons.mp h with h | h
        · exact .inl h
        · exact .inr (List.mem_cons_of_mem _ h)

/-- Writing keeps the keys strictly increasing. -/
theorem ordered_insertEntry (key value : String) {entries : List (String × String)}
    (h : entries.Pairwise (·.1 < ·.1)) :
    (insertEntry key value entries).Pairwise (·.1 < ·.1) := by
  induction entries with
  | nil => simp [insertEntry]
  | cons head rest ih =>
    obtain ⟨k, v⟩ := head
    have hhead : ∀ {entry}, entry ∈ rest → k < entry.1 := List.rel_of_pairwise_cons h
    have hrest := List.Pairwise.of_cons h
    unfold insertEntry
    split
    · next hlt =>
      refine List.Pairwise.cons ?_ h
      intro entry hmem
      rcases List.mem_cons.mp hmem with hmem | hmem
      · simpa [hmem] using hlt
      · exact String.lt_trans hlt (hhead hmem)
    · next hge =>
      split
      · next hgt =>
        refine List.Pairwise.cons ?_ (ih hrest)
        intro entry hmem
        rcases mem_insertEntry hmem with hmem | hmem
        · simpa [hmem] using hgt
        · exact hhead hmem
      · next hle =>
        have heq : key = k :=
          String.le_antisymm (String.not_lt.mp hle) (String.not_lt.mp hge)
        subst heq
        exact List.Pairwise.cons (fun _ hmem => hhead hmem) hrest

/-- The dictionary without entries. -/
def empty : Dictionary := ⟨[], .nil⟩

instance : Inhabited Dictionary := ⟨empty⟩

/-- Write a value under a key. -/
def insert (key value : String) (d : Dictionary) : Dictionary :=
  ⟨insertEntry key value d.entries, ordered_insertEntry key value d.ordered⟩

/-- The value a key holds. -/
def get? (d : Dictionary) (key : String) : Option String :=
  (d.entries.find? (·.1 = key)).map (·.2)

/-- Write several entries, the first one first. -/
def insertAll (entries : List (String × String)) (d : Dictionary) : Dictionary :=
  entries.foldl (fun d entry => d.insert entry.1 entry.2) d

/-- The dictionary that results from writing the entries into the empty one. -/
def ofList (entries : List (String × String)) : Dictionary :=
  empty.insertAll entries

/-- The number of keys. -/
def size (d : Dictionary) : Nat := d.entries.length

/-- Whether no key was written. -/
def isEmpty (d : Dictionary) : Bool := d.entries.isEmpty

end Dictionary

end HandlerWiring
