import Mathlib.Data.List.Nodup
import HandlerWiring.Proofs.Toml.Moment
import HandlerWiring.Toml.Document

/-!
# The table of a document

Whatever lines a document has, each of them changes its table by putting one node under one name, in
place of the node that is there or behind the others. What such a change keeps therefore holds of
the table of every document (`holds_of_read`). A name stands in it once, so the entries are a map
from names to nodes, and the order in which they were made can be left out of account. And a moment
in it is a real one, since it was read.

Only the names of the document itself are looked at, not those in the tables inside it.
-/

namespace HandlerWiring.Toml

/-- The node is no moment, or a real one. -/
def Node.IsSound : Node → Prop
  | .scalar (.moment m) => m.IsReal
  | _ => True

namespace Table

/-- Each name stands in the table once. -/
def Distinct (t : Table) : Prop := (t.map (·.1)).Nodup

variable {t t' : Table}

/-! ## Changes of a table -/

/-- A node is put in place of the one with its name, or behind the others. -/
theorem names_put (key : String) (node : Node) (t : Table) :
    (put key node t).map (·.1) =
      if key ∈ t.map (·.1) then t.map (·.1) else t.map (·.1) ++ [key] := by
  induction t with
  | nil => rfl
  | cons entry rest ih =>
    obtain ⟨k, n⟩ := entry
    rw [put, List.map_cons]
    by_cases same : k = key
    · subst same
      rw [if_pos rfl, if_pos List.mem_cons_self, List.map_cons]
    · have elsewhere : key ∈ k :: rest.map (·.1) ↔ key ∈ rest.map (·.1) := by
        rw [List.mem_cons, or_iff_right (Ne.symm same)]
      rw [if_neg same, List.map_cons, ih]
      by_cases there : key ∈ rest.map (·.1)
      · rw [if_pos there, if_pos (elsewhere.mpr there)]
      · rw [if_neg there, if_neg (mt elsewhere.mp there), List.cons_append]

theorem Distinct.put (h : t.Distinct) (key : String) (node : Node) :
    (t.put key node).Distinct := by
  rw [Distinct, names_put]
  split
  · exact h
  · next new => exact List.nodup_append_comm.mp (List.nodup_cons.mpr ⟨new, h⟩)

/-- A change that puts one sound node under one name. -/
def Puts (t t' : Table) : Prop := ∃ key node, node.IsSound ∧ t' = t.put key node

theorem Puts.table (t : Table) (key : String) (making : Making) (inner : Table) :
    t.Puts (t.put key (.table making inner)) :=
  ⟨key, .table making inner, trivial, rfl⟩

theorem Puts.tables (t : Table) (key : String) (elements : List Table) :
    t.Puts (t.put key (.tables elements)) :=
  ⟨key, .tables elements, trivial, rfl⟩

theorem Puts.distinct (h : t.Puts t') (distinct : t.Distinct) : t'.Distinct := by
  obtain ⟨key, node, -, rfl⟩ := h
  exact distinct.put key node

/-- A node of a changed table was there before or was put. -/
theorem mem_put {key k : String} {node n : Node} (among : (k, n) ∈ t.put key node) :
    (k, n) ∈ t ∨ n = node := by
  induction t with
  | nil =>
    cases List.mem_singleton.mp among
    exact .inr rfl
  | cons entry rest ih =>
    rw [put] at among
    split at among
    · rcases List.mem_cons.mp among with same | among
      · cases same
        exact .inr rfl
      · exact .inl (List.mem_cons_of_mem _ among)
    · rcases List.mem_cons.mp among with same | among
      · exact .inl (same ▸ List.mem_cons_self)
      · exact (ih among).imp_left (List.mem_cons_of_mem _)

/-- Every node of the table is sound. -/
def Sound (t : Table) : Prop := ∀ key node, (key, node) ∈ t → node.IsSound

theorem Puts.sound (h : t.Puts t') (sound : t.Sound) : t'.Sound := by
  obtain ⟨_, _, fine, rfl⟩ := h
  intro k n among
  rcases mem_put among with there | rfl
  · exact sound k n there
  · exact fine

variable {making : Making} {key : String} {node : Node}

theorem puts_of_setNew {behindDots : Bool} (fine : node.IsSound)
    (h : setNew behindDots key node making t = some t') : Puts t t' := by
  unfold setNew at h
  split at h
  · cases h
  · split at h
    · exact ⟨key, node, fine, (Option.some.inj h).symm⟩
    · cases h

theorem puts_of_openSection (h : openSection key making t = some t') : Puts t t' := by
  unfold openSection at h
  split at h
  · cases h
    exact .table t key .section []
  · cases h
    exact .table t key .section _
  · cases h

theorem puts_of_openElement (h : openElement key making t = some t') : Puts t t' := by
  unfold openElement at h
  split at h
  · cases h
    exact .tables t key [[]]
  · cases h
    exact .tables t key _
  · cases h

/-- A change at the end of a path puts one node under the first name of the path. -/
theorem puts_of_alter {dotted : Bool} {change : Making → Table → Option Table}
    (changes : ∀ {making t t'}, change making t = some t' → Puts t t') {path : List String}
    (h : alter dotted change path making t = some t') : Puts t t' := by
  cases path with
  | nil => exact changes h
  | cons first rest =>
    rw [alter] at h
    split at h
    · obtain ⟨inner, -, made⟩ := Option.bind_eq_some_iff.mp h
      cases made
      exact .table t first _ inner
    · split at h
      · cases h
      · obtain ⟨inner, -, made⟩ := Option.bind_eq_some_iff.mp h
        cases made
        exact .table t first _ inner
    · obtain ⟨last, -, made⟩ := Option.bind_eq_some_iff.mp h
      cases made
      exact .tables t first _
    · cases h

theorem puts_of_setAt {path : List String} (fine : node.IsSound)
    (h : setAt path key node making t = some t') : Puts t t' :=
  puts_of_alter (puts_of_setNew fine) h

end Table

/-! ## Values -/

/-- A scalar that was read is sound. -/
theorem isSound_of_readScalar {cs rest : List Char} {s : Scalar}
    (h : readScalar cs = some (s, rest)) : (Node.scalar s).IsSound := by
  unfold readScalar at h
  split at h
  · cases h
  · split at h
    · obtain ⟨_, -, same⟩ := Option.map_eq_some_iff.mp h
      cases same
      trivial
    · split at h
      · obtain ⟨_, -, same⟩ := Option.map_eq_some_iff.mp h
        cases same
        trivial
      · split at h
        · obtain ⟨_, -, same⟩ := Option.map_eq_some_iff.mp h
          cases same
          trivial
        · split at h
          · next m _ moment =>
            cases h
            exact Moment.isReal_of_read moment
          · obtain ⟨_, -, same⟩ := Option.map_eq_some_iff.mp h
            cases same
            trivial

/-- A value that was read is sound. -/
theorem isSound_of_readValue {fuel depth : Nat} {cs rest : List Char} {node : Node}
    (h : readValue fuel depth cs = some (node, rest)) : node.IsSound := by
  unfold readValue at h
  split at h
  · cases h
  · cases h
  · cases h
  · obtain ⟨_, -, same⟩ := Option.map_eq_some_iff.mp h
    cases same
    trivial
  · split at h
    · cases h
      trivial
    · obtain ⟨_, -, same⟩ := Option.map_eq_some_iff.mp h
      cases same
      trivial
  · obtain ⟨_, scalar, same⟩ := Option.map_eq_some_iff.mp h
    cases same
    exact isSound_of_readScalar scalar

namespace Draft

variable {d d' : Draft} {cs rest : List Char}

/-! ## Lines -/

theorem puts_of_readSetting (h : d.readSetting cs = some (d', rest)) :
    d.root.Puts d'.root := by
  unfold readSetting at h
  simp only [Option.bind_eq_bind, Option.bind_eq_some_iff, Option.pure_def, Option.some.injEq,
    Prod.mk.injEq] at h
  obtain ⟨⟨path, key, _⟩, -, _, -, ⟨node, _⟩, value, _, -, d₁, opened, rfl, -⟩ := h
  obtain ⟨root, altered, made⟩ := Option.bind_eq_some_iff.mp opened
  cases made
  exact Table.puts_of_alter (Table.puts_of_setAt (isSound_of_readValue value)) altered

theorem puts_of_readSection (h : d.readSection cs = some (d', rest)) :
    d.root.Puts d'.root := by
  unfold readSection at h
  simp only [Option.bind_eq_bind, Option.bind_eq_some_iff, Option.pure_def, Option.some.injEq,
    Prod.mk.injEq] at h
  obtain ⟨⟨path, key, _⟩, -, _, -, _, -, root, altered, rfl, -⟩ := h
  exact Table.puts_of_alter Table.puts_of_openSection altered

theorem puts_of_readElement (h : d.readElement cs = some (d', rest)) :
    d.root.Puts d'.root := by
  unfold readElement at h
  simp only [Option.bind_eq_bind, Option.bind_eq_some_iff, Option.pure_def, Option.some.injEq,
    Prod.mk.injEq] at h
  obtain ⟨⟨path, key, _⟩, -, _, -, _, -, _, -, root, altered, rfl, -⟩ := h
  exact Table.puts_of_alter Table.puts_of_openElement altered

/-! ## Documents -/

variable {P : Table → Prop}

/-- A line keeps what each change keeps. -/
theorem keeps_readLine (keeps : ∀ {t t' : Table}, t.Puts t' → P t → P t')
    (h : d.readLine cs = some (d', rest)) (holds : P d.root) : P d'.root := by
  unfold readLine at h
  split at h
  · exact keeps (puts_of_readElement h) holds
  · exact keeps (puts_of_readSection h) holds
  · obtain ⟨_, -, same⟩ := Option.map_eq_some_iff.mp h
    cases same
    exact holds
  · cases h
    exact holds
  · obtain ⟨_, -, same⟩ := Option.map_eq_some_iff.mp h
    cases same
    exact holds
  · exact keeps (puts_of_readSetting h) holds

/-- Lines keep what each change keeps. -/
theorem keeps_readLines (keeps : ∀ {t t' : Table}, t.Puts t' → P t → P t') {fuel : Nat}
    (h : readLines fuel d cs = some d') (holds : P d.root) : P d'.root := by
  induction fuel generalizing d cs with
  | zero => cases h
  | succ fuel ih =>
    rw [readLines] at h
    split at h
    · cases h
      exact holds
    · obtain ⟨⟨next, rest⟩, line, others⟩ := Option.bind_eq_some_iff.mp h
      exact ih others (keeps_readLine keeps line holds)

end Draft

variable {text : String} {t : Table}

/-- What holds of the empty table and is kept by each change holds of the table of a document. -/
theorem holds_of_read {P : Table → Prop} (keeps : ∀ {t t' : Table}, t.Puts t' → P t → P t')
    (nothing : P []) (h : read text = some t) : P t := by
  obtain ⟨d, lines, rfl⟩ := Option.map_eq_some_iff.mp h
  exact Draft.keeps_readLines keeps lines nothing

/-- The names of a document are distinct. -/
theorem distinct_of_read (h : read text = some t) : t.Distinct :=
  holds_of_read Table.Puts.distinct List.nodup_nil h

/-- The nodes of a document are sound. -/
theorem isSound_of_read {key : String} {node : Node} (h : read text = some t)
    (among : (key, node) ∈ t) : node.IsSound :=
  holds_of_read Table.Puts.sound (fun _ _ there => (nomatch there)) h key node among

end HandlerWiring.Toml
