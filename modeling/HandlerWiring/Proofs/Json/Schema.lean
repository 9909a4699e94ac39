import HandlerWiring.Json.Schema.Writer
import HandlerWiring.Proofs.Json.Node
import HandlerWiring.Proofs.Json.Printer

/-!
# Well-formed schemas

What a schema has to observe for its documents to be readable: names that are looked up differ, a
field that is left out when it has its default is given that default when it lacks, an absent
option is told from a present one, and the tag of a union is no field of its cases. Beside it stand
the facts about written documents that the readers ask for: their numbers are whole, their keys are
those of the schema, and they are no deeper than the schema.
-/

namespace HandlerWiring.Json

/-- Whether a schema is an option. -/
def Schema.isOptional : Schema → Bool
  | .optional _ => true
  | _ => false

mutual

/-- Different values of the schema have different documents, and a document tells its value. -/
def Schema.WellFormed : Schema → Prop
  | .text | .flag | .word | .dictionary => True
  | .name choices => choices.Nodup
  | .list item => item.WellFormed
  | .optional item => item.isOptional = false ∧ item.WellFormed
  | .record _ _ fields => fields.names.Nodup ∧ fields.WellFormed
  | .tagged _ tag cases => cases.names.Nodup ∧ cases.WellFormed tag
termination_by structural schema => schema

/-- `Schema.WellFormed` of all fields. -/
def Fields.WellFormed : Fields → Prop
  | .none => True
  | .field _ presence schema rest =>
    (presence.quiet = true → presence.recordMayLack = true) ∧ schema.WellFormed ∧ rest.WellFormed
termination_by structural fields => fields

/-- `Schema.WellFormed` of the fields of all cases, which are told apart by the tag. -/
def Cases.WellFormed (tag : String) : Cases → Prop
  | .none => True
  | .case _ fields rest =>
    tag ∉ fields.names ∧ fields.names.Nodup ∧ fields.WellFormed ∧ rest.WellFormed tag
termination_by structural cases => cases

end

mutual

def Schema.decWellFormed : (schema : Schema) → Decidable schema.WellFormed
  | .text | .flag | .word | .dictionary => isTrue trivial
  | .name choices => inferInstanceAs (Decidable choices.Nodup)
  | .list item => item.decWellFormed
  | .optional item =>
    have := item.decWellFormed
    inferInstanceAs (Decidable (_ ∧ _))
  | .record _ _ fields =>
    have := fields.decWellFormed
    inferInstanceAs (Decidable (_ ∧ _))
  | .tagged _ tag cases =>
    have := cases.decWellFormed tag
    inferInstanceAs (Decidable (_ ∧ _))
termination_by structural schema => schema

def Fields.decWellFormed : (fields : Fields) → Decidable fields.WellFormed
  | .none => isTrue trivial
  | .field _ _ schema rest =>
    have := schema.decWellFormed
    have := rest.decWellFormed
    inferInstanceAs (Decidable (_ ∧ _ ∧ _))
termination_by structural fields => fields

def Cases.decWellFormed (tag : String) : (cases : Cases) → Decidable (cases.WellFormed tag)
  | .none => isTrue trivial
  | .case _ fields rest =>
    have := fields.decWellFormed
    have := rest.decWellFormed tag
    inferInstanceAs (Decidable (_ ∧ _ ∧ _ ∧ _))
termination_by structural cases => cases

end

instance (schema : Schema) : Decidable schema.WellFormed := schema.decWellFormed

/-! ## Depth -/

mutual

/-- How many lists and records are nested in the documents of a schema, at most. -/
def Schema.height : Schema → Nat
  | .text | .flag | .word | .name _ => 0
  | .list item => item.height + 1
  | .optional item => item.height
  | .dictionary => 1
  | .record _ _ fields => fields.height + 1
  | .tagged _ _ cases => cases.height + 1
termination_by structural schema => schema

/-- `Schema.height` of the highest field. -/
def Fields.height : Fields → Nat
  | .none => 0
  | .field _ _ schema rest => max schema.height rest.height
termination_by structural fields => fields

/-- `Schema.height` of the highest field of any case. -/
def Cases.height : Cases → Nat
  | .none => 0
  | .case _ fields rest => max fields.height rest.height
termination_by structural cases => cases

end

/-! ## Written documents -/

theorem shallowItems_iff {depth : Nat} {vs : List Value} :
    shallowItems depth vs = true ↔ ∀ v ∈ vs, v.shallow depth = true := by
  induction vs with
  | nil => simp [shallowItems]
  | cons v vs ih => simp [shallowItems, ih]

theorem shallowMembers_iff {depth : Nat} {ms : List (String × Value)} :
    shallowMembers depth ms = true ↔ ∀ m ∈ ms, m.2.shallow depth = true := by
  induction ms with
  | nil => simp [shallowMembers]
  | cons m ms ih => simp [shallowMembers, ih]

theorem wholeItems_iff {vs : List Value} : WholeItems vs ↔ ∀ v ∈ vs, v.Whole := by
  induction vs with
  | nil => simp [WholeItems]
  | cons v vs ih => simp [WholeItems, ih]

theorem wholeMembers_iff {ms : List (String × Value)} :
    WholeMembers ms ↔ ∀ m ∈ ms, m.2.Whole := by
  induction ms with
  | nil => simp [WholeMembers]
  | cons m ms ih => simp [WholeMembers, ih]

mutual

/-- The document of a value is no deeper than the schema. -/
theorem Schema.shallow_write {depth : Nat} : ∀ (schema : Schema) (x : schema.El),
    depth + schema.height ≤ depthLimit → (schema.write x).shallow depth = true
  | .text, _, _ | .flag, _, _ | .word, _, _ | .name _, _, _ => rfl
  | .list item, items, h => by
    rw [Schema.height] at h
    rw [Schema.write, Value.shallow, Bool.and_eq_true, decide_eq_true_eq, shallowItems_iff]
    refine ⟨by omega, ?_⟩
    intro v hv
    obtain ⟨x, -, rfl⟩ := List.mem_map.mp hv
    exact item.shallow_write x (by omega)
  | .optional item, x, h => by
    cases x with
    | none => rfl
    | some x => exact item.shallow_write x h
  | .dictionary, d, h => by
    rw [Schema.height] at h
    rw [Schema.write, Value.shallow, Bool.and_eq_true, decide_eq_true_eq, shallowMembers_iff]
    refine ⟨by omega, ?_⟩
    intro m hm
    obtain ⟨entry, -, rfl⟩ := List.mem_map.mp hm
    rfl
  | .record _ _ fields, row, h => by
    rw [Schema.height] at h
    rw [Schema.write, Value.shallow, Bool.and_eq_true, decide_eq_true_eq]
    exact ⟨by omega, fields.shallow_write row (by omega)⟩
  | .tagged _ tag cases, x, h => by
    rw [Schema.height] at h
    rw [Schema.write, Value.shallow, Bool.and_eq_true, decide_eq_true_eq]
    exact ⟨by omega, cases.shallow_write tag x (by omega)⟩
termination_by structural schema => schema

theorem Fields.shallow_write {depth : Nat} : ∀ (fields : Fields) (row : fields.El),
    depth + fields.height ≤ depthLimit → shallowMembers depth (fields.write row) = true
  | .none, _, _ => rfl
  | .field name presence schema rest, (x, row), h => by
    rw [Fields.height] at h
    have others : shallowMembers depth (rest.write row) = true := rest.shallow_write row (by omega)
    rw [Fields.write]
    split
    · exact others
    · rw [shallowMembers, others, schema.shallow_write x (by omega)]
      rfl
termination_by structural fields => fields

theorem Cases.shallow_write {depth : Nat} (tag : String) : ∀ (cases : Cases) (x : cases.El),
    depth + cases.height ≤ depthLimit → shallowMembers depth (cases.write tag x) = true
  | .none, x, _ => nomatch x
  | .case name fields rest, .inl row, h => by
    rw [Cases.height] at h
    rw [Cases.write, shallowMembers, fields.shallow_write row (by omega)]
    rfl
  | .case name fields rest, .inr x, h => by
    rw [Cases.height] at h
    exact rest.shallow_write tag x (by omega)
termination_by structural cases => cases

end

mutual

/-- The numbers in the document of a value are whole. -/
theorem Schema.whole_write : ∀ (schema : Schema) (x : schema.El), (schema.write x).Whole
  | .text, _ | .flag, _ | .name _, _ => trivial
  | .word, n => by
    have bound : UInt32.toNat n < 2 ^ (32 : Nat) := UInt32.toNat_lt n
    rw [Schema.write, Value.Whole]
    omega
  | .list item, items => by
    rw [Schema.write, Value.Whole, wholeItems_iff]
    intro v hv
    obtain ⟨x, -, rfl⟩ := List.mem_map.mp hv
    exact item.whole_write x
  | .optional item, x => by
    cases x with
    | none => exact trivial
    | some x => exact item.whole_write x
  | .dictionary, d => by
    rw [Schema.write, Value.Whole, wholeMembers_iff]
    intro m hm
    obtain ⟨entry, -, rfl⟩ := List.mem_map.mp hm
    exact trivial
  | .record _ _ fields, row => fields.whole_write row
  | .tagged _ tag cases, x => cases.whole_write tag x
termination_by structural schema => schema

theorem Fields.whole_write : ∀ (fields : Fields) (row : fields.El), WholeMembers (fields.write row)
  | .none, _ => trivial
  | .field name presence schema rest, (x, row) => by
    rw [Fields.write]
    split
    · exact rest.whole_write row
    · exact ⟨schema.whole_write x, rest.whole_write row⟩
termination_by structural fields => fields

theorem Cases.whole_write (tag : String) :
    ∀ (cases : Cases) (x : cases.El), WholeMembers (cases.write tag x)
  | .none, x => nomatch x
  | .case _ fields _, .inl row => ⟨trivial, fields.whole_write row⟩
  | .case _ _ rest, .inr x => rest.whole_write tag x
termination_by structural cases => cases

end

/-- Only an absent option is written as nothing. -/
theorem Schema.write_ne_null : ∀ {schema : Schema} (x : schema.El),
    schema.isOptional = false → schema.write x ≠ .null
  | .text, _, _ | .flag, _, _ | .word, _, _ | .name _, _, _ | .list _, _, _ | .dictionary, _, _
  | .record .., _, _ | .tagged .., _, _ => fun h => nomatch h

/-- The keys of a written record are names of its fields. -/
theorem Fields.keys_write {key : String} : ∀ (fields : Fields) (row : fields.El),
    key ∈ (fields.write row).map (·.1) → key ∈ fields.names
  | .none, _, h => h
  | .field name presence schema rest, (x, row), h => by
    rw [Fields.write] at h
    rw [Fields.names, List.mem_cons]
    split at h
    · exact .inr (rest.keys_write row h)
    · rw [List.map_cons, List.mem_cons] at h
      exact h.imp_right (rest.keys_write row)

/-- The names of the fields that are written whatever they hold. -/
def Fields.loudNames : Fields → List String
  | .none => []
  | .field name presence _ rest =>
    if presence.quiet then rest.loudNames else name :: rest.loudNames

/-- A written record has a key for each field that is always written. -/
theorem Fields.mem_keys_write {name : String} : ∀ (fields : Fields) (row : fields.El),
    name ∈ fields.loudNames → name ∈ (fields.write row).map (·.1)
  | .field own presence schema rest, (x, row), h => by
    rw [Fields.loudNames] at h
    rw [Fields.write]
    cases quiet : presence.quiet with
    | true =>
      rw [quiet, if_pos rfl] at h
      have behind := rest.mem_keys_write row h
      split
      · exact behind
      · exact List.mem_cons_of_mem _ behind
    | false =>
      rw [quiet, if_neg Bool.false_ne_true] at h
      rw [Bool.false_and, if_neg Bool.false_ne_true, List.map_cons, List.mem_cons]
      exact (List.mem_cons.mp h).imp_right (rest.mem_keys_write row)

/-- A value that counts as the default is the default. -/
theorem Schema.default?_of_isDefault : ∀ (schema : Schema) (x : schema.El),
    schema.isDefault x = true → schema.default? = some x
  | .text, s, h => by
    have empty : s = "" := String.isEmpty_iff.mp h
    rw [empty, Schema.default?]
  | .flag, b, h => by
    have off : b = false := Bool.not_eq_true' b |>.mp h
    rw [off, Schema.default?]
  | .word, _, h => nomatch h
  | .name [], i, _ => i.elim0
  | .name (_ :: _), i, h => by
    have first : Fin.val i = 0 := beq_iff_eq.mp h
    exact congrArg some (Fin.ext first.symm)
  | .list item, items, h => by
    have empty : items = [] := List.isEmpty_iff.mp h
    rw [empty, Schema.default?]
  | .optional item, x, h => by
    have absent : x = none := Option.isNone_iff_eq_none.mp h
    rw [absent, Schema.default?]
  | .dictionary, d, h => by
    have empty : d.entries = [] := List.isEmpty_iff.mp h
    cases d
    subst empty
    rfl
  | .record _ _ fields, _, h => nomatch h
  | .tagged _ _ _, _, h => nomatch h

end HandlerWiring.Json
