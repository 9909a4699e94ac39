import HandlerWiring.Proofs.Json.Position

/-!
# What may be left out of a document

A field that may lack has a default, and a record without the field is read as if its default stood
there; a list of the fields may end before such a field likewise. `Schema.Implies` says that the one
value is the other with such a default written out, `Schema.WritesOut` that this is so somewhere in
a document. Either way the document is decoded as the same.

Only the default as the writer spells it is considered, in a record that does not have the key
already.
-/

namespace HandlerWiring.Json

/-- The members that may be left out of a record: the fields that may lack, with the documents of
their defaults. -/
def Fields.implied : Fields → List (String × Value)
  | .none => []
  | .field name presence schema rest =>
    (if presence.recordMayLack then
      (schema.default?.map fun x => (name, schema.write x)).toList
    else []) ++ rest.implied

/-- The document of the default of the field at a place, if a list of the fields may end there. -/
def Fields.impliedAt : Fields → Nat → Option Value
  | .none, _ => Option.none
  | .field _ presence schema _, 0 =>
    if presence.listMayLack then schema.default?.map schema.write else Option.none
  | .field _ _ _ rest, i + 1 => rest.impliedAt i

/-- The one value is the other with a default written out that it implies. -/
inductive Schema.Implies : Schema → Value → Value → Prop
  | member {title : String} {closed : Bool} {fields : Fields} {name : String} {v : Value}
      {before behind : List (String × Value)} :
    (name, v) ∈ fields.implied → name ∉ (before ++ behind).map (·.1) →
      Implies (.record title closed fields) (.record (before ++ behind))
        (.record (before ++ (name, v) :: behind))
  /-- In a record that is given as a list, behind what is given. -/
  | item {title : String} {closed : Bool} {fields : Fields} {v : Value} {given : List Value} :
    fields.impliedAt given.length = some v →
      Implies (.record title closed fields) (.list given) (.list (given ++ [v]))
  /-- Beside the tag of a union. -/
  | caseMember {title tag label : String} {cases : Cases} {fields : Fields} {name : String}
      {v : Value} {before behind : List (String × Value)} :
    cases.named? label = some fields → (tag, .text label) ∈ before ++ behind →
      (name, v) ∈ fields.implied → name ∉ (before ++ behind).map (·.1) →
      Implies (.tagged title tag cases) (.record (before ++ behind))
        (.record (before ++ (name, v) :: behind))
  /-- In a union that is given as a list, behind its tag. -/
  | caseItem {title tag label : String} {cases : Cases} {fields : Fields} {v : Value}
      {given : List Value} :
    cases.named? label = some fields → fields.impliedAt given.length = some v →
      Implies (.tagged title tag cases) (.list (.text label :: given))
        (.list (.text label :: (given ++ [v])))

/-- Somewhere in the first document a default is written out that the second one implies there. -/
inductive Schema.WritesOut (outer : Schema) : Value → Value → Prop
  | mk {inner : Schema} {holes : Nat} {plug : Value → Value} {v w : Value} :
    outer.Position holes plug inner → inner.Implies v w → WritesOut outer (plug w) (plug v)

/-! ## Defaults -/

/-- A default is decoded from its own document. -/
theorem Schema.decode_write_default {depth : Nat} : ∀ (schema : Schema) {x : schema.El},
    schema.default? = some x → depth + schema.height ≤ depthLimit →
      schema.decode depth (schema.write x) = some x
  | .text, _, h, _ | .flag, _, h, _ => by
    cases h
    rfl
  | .name (choice :: choices), _, h, _ => by
    cases h
    change (choice :: choices).findFinIdx? (· == choice) = _
    rw [List.findFinIdx?_cons, if_pos (beq_self_eq_true choice)]
    rfl
  | .list item, _, h, fits => by
    cases h
    rw [Schema.height] at fits
    exact if_pos (by omega)
  | .optional item, _, h, _ => by
    cases h
    rfl
  | .dictionary, _, h, fits => by
    cases h
    rw [Schema.height] at fits
    exact if_pos (by omega)
  | .tagged title tag (.case label .none rest), _, h, fits => by
    cases h
    rw [Schema.height] at fits
    have beside : [(tag, Value.text label)].filter (·.1 ≠ tag) = [] := by simp
    have known : (Cases.case label .none rest).names.contains label = true :=
      List.contains_iff_mem.mpr List.mem_cons_self
    have name : uniqueOr none (Value.decodeTag (Cases.case label .none rest).names)
        (valuesUnder tag [(tag, .text label)]) = some label := by
      rw [valuesUnder_self]
      exact if_pos known
    change unlessDeep depth (if shallowMembers (depth + 1)
      ([(tag, Value.text label)].filter (·.1 ≠ tag)) = true then
        (uniqueOr none (Value.decodeTag (Cases.case label .none rest).names)
          (valuesUnder tag [(tag, .text label)])).bind fun name =>
            (Cases.case label .none rest).decode (depth + 1) name [(tag, .text label)]
      else none) = _
    rw [beside, name, unlessDeep, if_pos (by omega), shallowMembers, if_pos rfl]
    exact if_pos rfl

/-- An implied member stands for a field that may lack, and holds its default. -/
theorem Fields.mem_implied {name own : String} {presence : Presence} {schema : Schema}
    {rest : Fields} {v : Value} (h : (name, v) ∈ (Fields.field own presence schema rest).implied) :
    (name = own ∧ presence.recordMayLack = true ∧
        ∃ x, schema.default? = some x ∧ v = schema.write x) ∨
      (name, v) ∈ rest.implied := by
  rw [Fields.implied, List.mem_append] at h
  refine h.imp_left fun here => ?_
  split at here
  · next mayLack =>
    obtain ⟨x, default, same⟩ := Option.map_eq_some_iff.mp (Option.mem_toList.mp here)
    cases same
    exact ⟨rfl, mayLack, x, default, rfl⟩
  · cases here

theorem Fields.mem_names_of_implied {name : String} {v : Value} :
    ∀ {fields : Fields}, (name, v) ∈ fields.implied → name ∈ fields.names
  | .field .., h => by
    rw [Fields.names, List.mem_cons]
    rcases Fields.mem_implied h with ⟨same, _⟩ | behind
    · exact .inl same
    · exact .inr (mem_names_of_implied behind)

/-- The document of a default is no deeper than the fields. -/
theorem Fields.shallow_implied {name : String} {v : Value} {depth : Nat} :
    ∀ {fields : Fields}, (name, v) ∈ fields.implied → depth + fields.height ≤ depthLimit →
      v.shallow depth = true
  | .field own presence schema rest, h, fits => by
    rw [Fields.height] at fits
    rcases Fields.mem_implied h with ⟨_, _, x, _, rfl⟩ | behind
    · exact schema.shallow_write x (by omega)
    · exact shallow_implied behind (by omega)

/-- The fields of a record are decoded as if an implied member stood there. -/
theorem Fields.decode_implied {depth : Nat} {name : String} {v : Value}
    {before behind : List (String × Value)} (lacking : name ∉ (before ++ behind).map (·.1)) :
    ∀ {fields : Fields}, (name, v) ∈ fields.implied → fields.names.Nodup →
      depth + fields.height ≤ depthLimit →
      fields.decode depth (before ++ (name, v) :: behind) = fields.decode depth (before ++ behind)
  | .field own presence schema rest, h, distinct, fits => by
    obtain ⟨new, distinct⟩ := List.nodup_cons.mp distinct
    rw [Fields.height] at fits
    rcases Fields.mem_implied h with ⟨rfl, mayLack, x, default, rfl⟩ | later
    · have nothing : valuesUnder name (before ++ behind) = [] := by
        refine List.eq_nil_iff_forall_not_mem.mpr fun w hw => lacking ?_
        exact List.mem_map.mpr ⟨(name, w), mem_valuesUnder.mp hw, rfl⟩
      have one : valuesUnder name (before ++ (name, schema.write x) :: behind) =
          [schema.write x] := by
        rw [valuesUnder_append, List.append_eq_nil_iff] at nothing
        rw [valuesUnder_append, valuesUnder_self, nothing.1, nothing.2]
        rfl
      have value : uniqueOr (if presence.recordMayLack then schema.default? else Option.none)
          (schema.decode depth) [schema.write x] =
            uniqueOr (if presence.recordMayLack then schema.default? else Option.none)
              (schema.decode depth) [] := by
        rw [if_pos mayLack, default]
        exact schema.decode_write_default default (by omega)
      rw [Fields.decode, Fields.decode, rest.decode_insert _ before behind new, one, nothing, value]
    · have other : name ≠ own := by
        rintro rfl
        exact new (mem_names_of_implied later)
      rw [Fields.decode, Fields.decode, valuesUnder_insert other,
        rest.decode_implied lacking later distinct (by omega)]

/-- The document of a default at the end of a list is no deeper than the fields. -/
theorem Fields.shallow_impliedAt {v : Value} {depth : Nat} :
    ∀ {fields : Fields} {i : Nat}, fields.impliedAt i = some v →
      depth + fields.height ≤ depthLimit → v.shallow depth = true
  | .field _ presence schema rest, 0, h, fits => by
    rw [Fields.height] at fits
    obtain ⟨_, mayLack⟩ := Option.ite_none_right_eq_some.mp h
    obtain ⟨x, _, rfl⟩ := Option.map_eq_some_iff.mp mayLack
    exact schema.shallow_write x (by omega)
  | .field _ _ _ rest, i + 1, h, fits => by
    rw [Fields.height] at fits
    have later : rest.impliedAt i = some v := h
    exact shallow_impliedAt later (by omega)

/-- The fields in a list are decoded as if the default of the next one stood there. -/
theorem Fields.decodeList_implied {depth : Nat} {v : Value} :
    ∀ {fields : Fields} {given : List Value}, fields.impliedAt given.length = some v →
      depth + fields.height ≤ depthLimit →
      fields.decodeList depth (given ++ [v]) = fields.decodeList depth given
  | .field _ presence schema rest, [], h, fits => by
    rw [Fields.height] at fits
    obtain ⟨mayLack, h⟩ := Option.ite_none_right_eq_some.mp h
    obtain ⟨x, default, rfl⟩ := Option.map_eq_some_iff.mp h
    have value : schema.decode depth (schema.write x) =
        if presence.listMayLack then schema.default? else Option.none := by
      rw [if_pos mayLack, default]
      exact schema.decode_write_default default (by omega)
    exact congrArg (Option.bind · _) value
  | .field _ presence schema rest, w :: given, h, fits => by
    rw [Fields.height] at fits
    have later : rest.impliedAt given.length = some v := h
    have behind : rest.decodeList depth (given ++ [v]) = rest.decodeList depth given :=
      decodeList_implied later (by omega)
    rw [List.cons_append, Fields.decodeList, Fields.decodeList, List.tail_cons, List.tail_cons,
      behind]

/-! ## Heights -/

theorem Fields.height_of_named? {name : String} {schema : Schema} :
    ∀ {fields : Fields}, fields.named? name = some schema → schema.height ≤ fields.height
  | .field .., h => by
    rw [Fields.height]
    obtain ⟨-, rfl⟩ | ⟨-, h⟩ := Fields.eq_of_named? h
    · exact Nat.le_max_left _ _
    · exact Nat.le_trans (height_of_named? h) (Nat.le_max_right _ _)

theorem Fields.height_of_nth? {schema : Schema} :
    ∀ {fields : Fields} {i : Nat}, fields.nth? i = some schema → schema.height ≤ fields.height
  | .field .., 0, h => by
    cases h
    exact Nat.le_max_left _ _
  | .field _ _ _ rest, i + 1, h => by
    have later : rest.nth? i = some schema := h
    exact Nat.le_trans (height_of_nth? later) (Nat.le_max_right _ _)

theorem Cases.height_of_named? {label : String} {fields : Fields} :
    ∀ {cases : Cases}, cases.named? label = some fields → fields.height ≤ cases.height
  | .case .., h => by
    rw [Cases.height]
    obtain ⟨-, rfl⟩ | ⟨-, h⟩ := Cases.eq_of_named? h
    · exact Nat.le_max_left _ _
    · exact Nat.le_trans (height_of_named? h) (Nat.le_max_right _ _)

/-- A schema at a position is no higher than what is left of the outer one. -/
theorem Schema.Position.height_le {outer inner : Schema} {holes : Nat} {plug : Value → Value}
    (h : outer.Position holes plug inner) : holes + inner.height ≤ outer.height := by
  induction h with
  | here => exact Nat.le_of_eq (Nat.zero_add _)
  | present _ ih => exact ih
  | item _ _ _ ih =>
    rw [Schema.height]
    omega
  | member _ _ found _ ih =>
    have field := Fields.height_of_named? found
    rw [Schema.height]
    omega
  | listed _ _ found _ ih =>
    have field := Fields.height_of_nth? found
    rw [Schema.height]
    omega
  | caseMember _ _ chosen found _ _ ih =>
    have case := Cases.height_of_named? chosen
    have field := Fields.height_of_named? found
    rw [Schema.height]
    omega
  | caseListed _ _ chosen found _ ih =>
    have case := Cases.height_of_named? chosen
    have field := Fields.height_of_nth? found
    rw [Schema.height]
    omega

/-! ## Documents -/

namespace Schema

variable {schema outer : Schema} {v w : Value} {depth : Nat}

theorem Implies.ne_null (h : schema.Implies v w) : v ≠ .null ∧ w ≠ .null := by
  cases h <;> exact ⟨nofun, nofun⟩

/-- A default that is written out is not too deep. -/
theorem Implies.shallow_iff (h : schema.Implies v w) (fits : depth + schema.height ≤ depthLimit) :
    w.shallow depth = true ↔ v.shallow depth = true := by
  cases h with
  | member implied _ =>
    rw [Schema.height] at fits
    rw [shallow_record_insert]
    exact and_iff_right (Fields.shallow_implied implied (by omega))
  | @item _ _ _ _ given implied =>
    rw [Schema.height] at fits
    rw [shallow_list_insert, List.append_nil]
    exact and_iff_right (Fields.shallow_impliedAt implied (by omega))
  | caseMember chosen _ implied _ =>
    have case := Cases.height_of_named? chosen
    rw [Schema.height] at fits
    rw [shallow_record_insert]
    exact and_iff_right (Fields.shallow_implied implied (by omega))
  | @caseItem _ _ _ _ _ _ given chosen implied =>
    have case := Cases.height_of_named? chosen
    rw [Schema.height] at fits
    rw [← List.cons_append, shallow_list_insert, List.append_nil]
    exact and_iff_right (Fields.shallow_impliedAt implied (by omega))

/-- Written out or not, what is decoded is the same. -/
theorem Implies.decode (h : schema.Implies v w) (wf : schema.WellFormed)
    (fits : depth + schema.height ≤ depthLimit) : schema.decode depth w = schema.decode depth v := by
  cases h with
  | @member _ closed fields name v before behind implied lacking =>
    rw [Schema.height] at fits
    -- The new key is a known one.
    have known : (∀ m ∈ before ++ (name, v) :: behind, m.1 ∈ fields.names) ↔
        ∀ m ∈ before ++ behind, m.1 ∈ fields.names := by
      have new : name ∈ fields.names := Fields.mem_names_of_implied implied
      simp only [List.forall_mem_append, List.forall_mem_cons, new, true_and]
    refine congrArg (unlessDeep depth) ?_
    rw [Fields.decode_implied lacking implied wf.1 (by omega)]
    simp only [known]
  | item implied =>
    rw [Schema.height] at fits
    exact congrArg (unlessDeep depth) (Fields.decodeList_implied implied (by omega))
  | caseMember chosen tagged implied lacking =>
    obtain ⟨tagless, distinct, _⟩ := Cases.wellFormed_of_named? _ wf.2 chosen
    have case := Cases.height_of_named? chosen
    rw [Schema.height] at fits
    refine decode_tagged_insert chosen tagged ?_ ?_ ?_
    · rintro rfl
      exact tagless (Fields.mem_names_of_implied implied)
    · exact Fields.shallow_implied implied (by omega)
    · exact Fields.decode_implied lacking implied distinct (by omega)
  | @caseItem _ tag label cases fields v given chosen implied =>
    have case := Cases.height_of_named? chosen
    rw [Schema.height] at fits
    obtain ⟨make, -, made⟩ := cases.decode_named (depth + 1) chosen
    have low : shallowItems (depth + 1) (given ++ [v]) = shallowItems (depth + 1) given := by
      rw [Bool.eq_iff_iff, shallowItems_insert, List.append_nil]
      exact and_iff_right (Fields.shallow_impliedAt implied (by omega))
    have row (name : String) (named : (Value.text label).decodeTag cases.names = some name) :
        cases.decodeList (depth + 1) name (given ++ [v]) =
          cases.decodeList (depth + 1) name given := by
      cases eq_of_decodeTag (List.mem_singleton_self _) named
      rw [made, made, Fields.decodeList_implied implied (by omega)]
    refine congrArg (unlessDeep depth) ?_
    rw [low]
    split
    · exact Option.bind_congr row
    · rfl

/-- Defaults that are written out are not too deep, wherever they stand. -/
theorem WritesOut.shallow_iff (h : outer.WritesOut v w) (fits : outer.height ≤ depthLimit) :
    v.shallow 0 = true ↔ w.shallow 0 = true := by
  obtain ⟨position, implies⟩ := h
  have height := position.height_le
  obtain ⟨others, split⟩ := position.shallow_iff 0
  rw [split, split, implies.shallow_iff (by omega)]

/-- A document that is not too deep is decoded as the same with defaults written out. -/
theorem WritesOut.decode (h : outer.WritesOut v w) (wf : outer.WellFormed)
    (fits : outer.height ≤ depthLimit) (low : v.shallow 0 = true) :
    outer.decode 0 v = outer.decode 0 w := by
  obtain ⟨position, implies⟩ := h
  have height := position.height_le
  obtain ⟨others, split⟩ := position.shallow_iff 0
  have written := ((split _).mp low).1
  refine position.decode_exchange wf implies.ne_null.symm ⟨written, ?_⟩ ?_
  · exact (implies.shallow_iff (by omega)).mp written
  · exact implies.decode (position.wellFormed wf) (by omega)

end Schema

end HandlerWiring.Json
