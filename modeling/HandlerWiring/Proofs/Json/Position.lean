import HandlerWiring.Proofs.Json.Decode.Slot
import HandlerWiring.Proofs.Json.Sound

/-!
# Positions in documents

A position of a schema inside another is a document of the outer schema with a hole, where a value
of the inner one stands. What the whole document is decoded as depends on what stands in the hole
only through what that is decoded as, as long as it is not too deep.
-/

namespace HandlerWiring.Json

/-- The schema of the field with a name. -/
def Fields.named? (name : String) : Fields → Option Schema
  | .none => Option.none
  | .field n _ schema rest => if n = name then some schema else rest.named? name

/-- The schema of the field at a place in the list of all fields. -/
def Fields.nth? : Fields → Nat → Option Schema
  | .none, _ => Option.none
  | .field _ _ schema _, 0 => some schema
  | .field _ _ _ rest, i + 1 => rest.nth? i

/-- The fields of the case with a name. -/
def Cases.named? (name : String) : Cases → Option Fields
  | .none => Option.none
  | .case n fields rest => if n = name then some fields else rest.named? name

/-- A position of a schema inside another: a document of the outer one with a hole, inside so many
lists and records. Records may be given as lists. -/
inductive Schema.Position : Schema → Nat → (Value → Value) → Schema → Prop where
  /-- The hole is the whole document. -/
  | here (schema : Schema) : Position schema 0 id schema
  /-- In an item of a list. -/
  | item {item inner : Schema} {depth : Nat} {plug : Value → Value} (before behind : List Value) :
    Position item depth plug inner →
      Position (.list item) (1 + depth) (fun v => .list (before ++ plug v :: behind)) inner
  /-- In an option that is present. -/
  | present {item inner : Schema} {depth : Nat} {plug : Value → Value} :
    Position item depth plug inner → Position (.optional item) depth plug inner
  /-- In a member of a record. -/
  | member {title : String} {closed : Bool} {fields : Fields} {name : String}
      {schema inner : Schema} {depth : Nat} {plug : Value → Value}
      (before behind : List (String × Value)) :
    fields.named? name = some schema → Position schema depth plug inner →
      Position (.record title closed fields) (1 + depth)
        (fun v => .record (before ++ (name, plug v) :: behind)) inner
  /-- In an item of a record that is given as a list. -/
  | listed {title : String} {closed : Bool} {fields : Fields} {schema inner : Schema}
      {depth : Nat} {plug : Value → Value} (before behind : List Value) :
    fields.nth? before.length = some schema → Position schema depth plug inner →
      Position (.record title closed fields) (1 + depth)
        (fun v => .list (before ++ plug v :: behind)) inner
  /-- In a member of a union, beside its tag. -/
  | caseMember {title tag label : String} {cases : Cases} {fields : Fields} {name : String}
      {schema inner : Schema} {depth : Nat} {plug : Value → Value}
      (before behind : List (String × Value)) :
    cases.named? label = some fields → fields.named? name = some schema →
      (tag, .text label) ∈ before ++ behind → Position schema depth plug inner →
      Position (.tagged title tag cases) (1 + depth)
        (fun v => .record (before ++ (name, plug v) :: behind)) inner
  /-- In an item of a union that is given as a list, behind its tag. -/
  | caseListed {title tag label : String} {cases : Cases} {fields : Fields}
      {schema inner : Schema} {depth : Nat} {plug : Value → Value} (before behind : List Value) :
    cases.named? label = some fields → fields.nth? before.length = some schema →
      Position schema depth plug inner →
      Position (.tagged title tag cases) (1 + depth)
        (fun v => .list (.text label :: before ++ plug v :: behind)) inner

/-! ## Results that come of others -/

/-- One result comes of another: without that there is none, and with it there is but one. -/
def ComesOf {ι : Type} (f : ι → Option β) (g : ι → Option α) : Prop :=
  ∃ next : α → Option β, ∀ i, f i = (g i).bind next

namespace ComesOf

variable {ι : Type} {f : ι → Option β} {g : ι → Option α}

theorem refl (g : ι → Option α) : ComesOf g g :=
  ⟨some, fun i => (Option.bind_fun_some (g i)).symm⟩

theorem trans {h : ι → Option γ} (first : ComesOf f g) (second : ComesOf g h) : ComesOf f h := by
  obtain ⟨next, hf⟩ := first
  obtain ⟨next', hg⟩ := second
  refine ⟨fun x => (next' x).bind next, fun i => ?_⟩
  rw [hf, hg, Option.bind_assoc]

theorem congr {f' : ι → Option β} (same : ∀ i, f' i = f i) (h : ComesOf f g) : ComesOf f' g := by
  obtain ⟨next, hf⟩ := h
  exact ⟨next, fun i => (same i).trans (hf i)⟩

theorem none (g : ι → Option α) : ComesOf (fun _ => (Option.none : Option β)) g :=
  ⟨fun _ => Option.none, fun i => (Option.bind_fun_none (g i)).symm⟩

/-- Elsewhere, too. -/
theorem comp {κ : Type} (h : ComesOf f g) (at' : κ → ι) :
    ComesOf (fun k => f (at' k)) fun k => g (at' k) := by
  obtain ⟨next, hf⟩ := h
  exact ⟨next, fun k => hf (at' k)⟩

/-- Together with what follows. -/
theorem bind (h : ComesOf f g) (next : β → Option γ) :
    ComesOf (fun i => (f i).bind next) g :=
  trans ⟨next, fun _ => rfl⟩ h

theorem map (h : ComesOf f g) (next : β → γ) : ComesOf (fun i => (f i).map next) g :=
  (h.bind fun x => some (next x)).congr fun _ => Option.map_eq_bind

/-- Together with what precedes, if that is the same everywhere. -/
theorem after {f : γ → ι → Option β} (before : Option γ)
    (h : ∀ x, before = some x → ComesOf (f x) g) :
    ComesOf (fun i => before.bind fun x => f x i) g := by
  cases before with
  | none => exact none g
  | some x => exact h x rfl

/-- Under a condition that holds everywhere or nowhere. -/
theorem ite {c : ι → Prop} [∀ i, Decidable (c i)] (holds : Prop) (same : ∀ i, c i ↔ holds)
    (h : ComesOf f g) : ComesOf (fun i => if c i then f i else Option.none) g := by
  by_cases held : holds
  · exact h.congr fun i => if_pos ((same i).mpr held)
  · exact (none g).congr fun i => if_neg fun holds => held ((same i).mp holds)

theorem unlessDeep (h : ComesOf f g) (depth : Nat) :
    ComesOf (fun i => Json.unlessDeep depth (f i)) g :=
  h.ite _ fun _ => Iff.rfl

end ComesOf

/-! ## Fields and cases -/

theorem Fields.eq_of_named? {n name : String} {presence : Presence} {own schema : Schema}
    {rest : Fields} (h : (Fields.field n presence own rest).named? name = some schema) :
    n = name ∧ own = schema ∨ n ≠ name ∧ rest.named? name = some schema := by
  rw [Fields.named?] at h
  split at h
  · next same => exact .inl ⟨same, Option.some.inj h⟩
  · next other => exact .inr ⟨other, h⟩

theorem Cases.eq_of_named? {n label : String} {own fields : Fields} {rest : Cases}
    (h : (Cases.case n own rest).named? label = some fields) :
    n = label ∧ own = fields ∨ n ≠ label ∧ rest.named? label = some fields := by
  rw [Cases.named?] at h
  split at h
  · next same => exact .inl ⟨same, Option.some.inj h⟩
  · next other => exact .inr ⟨other, h⟩

theorem Fields.mem_names_of_named? {name : String} {schema : Schema} :
    ∀ {fields : Fields}, fields.named? name = some schema → name ∈ fields.names
  | .field .., h => by
    rw [Fields.names, List.mem_cons]
    obtain ⟨same, -⟩ | ⟨-, h⟩ := Fields.eq_of_named? h
    · exact .inl same.symm
    · exact .inr (mem_names_of_named? h)

/-- Under another key nothing is found of a member. -/
theorem valuesUnder_insert {key k : String} (other : k ≠ key) (v : Value)
    (before behind : List (String × Value)) :
    valuesUnder key (before ++ (k, v) :: behind) = valuesUnder key (before ++ behind) := by
  rw [valuesUnder_append, valuesUnder_other other, valuesUnder_append]

/-- Fields of other names are decoded as if a member were not there. -/
theorem Fields.decode_insert {depth : Nat} {name : String} (v : Value)
    (before behind : List (String × Value)) :
    ∀ (fields : Fields), name ∉ fields.names →
      fields.decode depth (before ++ (name, v) :: behind) = fields.decode depth (before ++ behind)
  | .none, _ => rfl
  | .field n _ _ rest, h => by
    rw [Fields.names, List.mem_cons, not_or] at h
    rw [Fields.decode, Fields.decode, valuesUnder_insert h.1,
      rest.decode_insert v before behind h.2]

/-- Of all values under a key, the one that stands at a place. -/
theorem uniqueOr_insert (absent : Option α) (decode : Value → Option α) (name : String)
    (before behind : List (String × Value)) :
    ComesOf (fun v => uniqueOr absent decode (valuesUnder name (before ++ (name, v) :: behind)))
      decode := by
  have split (v : Value) : valuesUnder name (before ++ (name, v) :: behind) =
      valuesUnder name before ++ v :: valuesUnder name behind := by
    rw [valuesUnder_append, valuesUnder_self]
  cases first : valuesUnder name before with
  | nil =>
    cases last : valuesUnder name behind with
    | nil =>
      refine (ComesOf.refl decode).congr fun v => ?_
      rw [split, first, last]
      rfl
    | cons w ws =>
      refine (ComesOf.none decode).congr fun v => ?_
      rw [split, first, last]
      rfl
  | cons w ws =>
    refine (ComesOf.none decode).congr fun v => ?_
    rw [split, first]
    cases ws with
    | nil => rfl
    | cons _ _ => rfl

/-- The fields of a record come of a member that stands for one of them. -/
theorem Fields.decode_member {depth : Nat} {name : String} {schema : Schema}
    (before behind : List (String × Value)) :
    ∀ (fields : Fields), fields.names.Nodup → fields.named? name = some schema →
      ComesOf (fun v => fields.decode depth (before ++ (name, v) :: behind)) (schema.decode depth)
  | .field n presence s rest, distinct, h => by
    obtain ⟨new, distinct⟩ := List.nodup_cons.mp distinct
    obtain ⟨rfl, rfl⟩ | ⟨other, h⟩ := Fields.eq_of_named? h
    · have value := uniqueOr_insert (if presence.recordMayLack then s.default? else Option.none)
        (s.decode depth) n before behind
      refine (value.bind fun x =>
        (rest.decode depth (before ++ behind)).map (x, ·)).congr fun v => ?_
      rw [Fields.decode, rest.decode_insert v before behind new]
      rfl
    · let first := (uniqueOr (if presence.recordMayLack then s.default? else Option.none)
        (s.decode depth) (valuesUnder n (before ++ behind)))
      refine (ComesOf.after first fun x _ =>
        (rest.decode_member before behind distinct h).map (x, ·)).congr fun v => ?_
      rw [Fields.decode, valuesUnder_insert (Ne.symm other)]
      rfl

/-- The fields of a record that is given as a list come of the item that stands for one of them. -/
theorem Fields.decode_listed {depth : Nat} {schema : Schema} (behind : List Value) :
    ∀ (fields : Fields) (before : List Value), fields.nth? before.length = some schema →
      ComesOf (fun v => fields.decodeList depth (before ++ v :: behind)) (schema.decode depth)
  | .field _ _ _ rest, [], h => by
    cases h
    exact (ComesOf.refl (schema.decode depth)).bind
      fun x => (rest.decodeList depth behind).map (x, ·)
  | .field _ _ s rest, w :: before, h =>
    ComesOf.after (s.decode depth w) fun x _ => (rest.decode_listed behind before h).map (x, ·)

theorem Fields.wellFormed_of_named? {name : String} {schema : Schema} :
    ∀ (fields : Fields), fields.WellFormed → fields.named? name = some schema → schema.WellFormed
  | .field _ _ _ rest, ⟨_, wf, wfRest⟩, h => by
    obtain ⟨-, rfl⟩ | ⟨-, h⟩ := Fields.eq_of_named? h
    · exact wf
    · exact rest.wellFormed_of_named? wfRest h

theorem Fields.wellFormed_of_nth? {schema : Schema} :
    ∀ (fields : Fields) {i : Nat}, fields.WellFormed → fields.nth? i = some schema →
      schema.WellFormed
  | .field .., 0, ⟨_, wf, _⟩, h => by
    cases h
    exact wf
  | .field _ _ _ rest, _ + 1, ⟨_, _, wf⟩, h => rest.wellFormed_of_nth? wf h

theorem Cases.wellFormed_of_named? {tag label : String} {fields : Fields} :
    ∀ (cases : Cases), cases.WellFormed tag → cases.named? label = some fields →
      tag ∉ fields.names ∧ fields.names.Nodup ∧ fields.WellFormed
  | .case _ _ rest, ⟨tagless, distinct, wf, wfRest⟩, h => by
    obtain ⟨-, rfl⟩ | ⟨-, h⟩ := Cases.eq_of_named? h
    · exact ⟨tagless, distinct, wf⟩
    · exact rest.wellFormed_of_named? wfRest h

theorem Fields.isClosed_of_named? {name : String} {schema : Schema} :
    ∀ (fields : Fields), fields.areClosed = true → fields.named? name = some schema →
      schema.isClosed = true
  | .field _ _ _ rest, closed, h => by
    obtain ⟨here, closed⟩ := Bool.and_eq_true_iff.mp closed
    obtain ⟨-, rfl⟩ | ⟨-, h⟩ := Fields.eq_of_named? h
    · exact here
    · exact rest.isClosed_of_named? closed h

theorem Fields.isClosed_of_nth? {schema : Schema} :
    ∀ (fields : Fields) {i : Nat}, fields.areClosed = true → fields.nth? i = some schema →
      schema.isClosed = true
  | .field .., 0, closed, h => by
    cases h
    exact (Bool.and_eq_true_iff.mp closed).1
  | .field _ _ _ rest, _ + 1, closed, h =>
    rest.isClosed_of_nth? (Bool.and_eq_true_iff.mp closed).2 h

theorem Cases.areClosed_of_named? {label : String} {fields : Fields} :
    ∀ (cases : Cases), cases.areClosed = true → cases.named? label = some fields →
      fields.areClosed = true
  | .case _ _ rest, closed, h => by
    obtain ⟨here, closed⟩ := Bool.and_eq_true_iff.mp closed
    obtain ⟨-, rfl⟩ | ⟨-, h⟩ := Cases.eq_of_named? h
    · exact here
    · exact rest.areClosed_of_named? closed h

theorem Cases.named?_of_mem {label : String} :
    ∀ (cases : Cases), label ∈ cases.names → ∃ fields, cases.named? label = some fields
  | .case n fields rest, h => by
    rw [Cases.named?]
    split
    · exact ⟨fields, rfl⟩
    · next other =>
      exact rest.named?_of_mem ((List.mem_cons.mp h).resolve_left (Ne.symm other))

/-- A tag that is decoded is a known name, and the only value. -/
theorem eq_tag_of_decode {names : List String} {name : String} {vs : List Value}
    (h : uniqueOr none (Value.decodeTag names) vs = some name) :
    name ∈ names ∧ vs = [.text name] := by
  match vs, h with
  | [], h | _ :: _ :: _, h => cases h
  | [.text label], h =>
    change (if names.contains label then some label else none) = some name at h
    split at h
    · next known =>
      cases h
      exact ⟨List.contains_iff_mem.mp known, rfl⟩
    · cases h

/-- A tag that is decoded is the one that stands among the values. -/
theorem eq_of_decodeTag {names : List String} {label name : String} {vs : List Value}
    (stands : .text label ∈ vs) (h : uniqueOr none (Value.decodeTag names) vs = some name) :
    name = label := by
  rw [(eq_tag_of_decode h).2, List.mem_singleton, Value.text.injEq] at stands
  exact stands.symm

/-- The case with a name is decoded as its fields are. -/
theorem Cases.decode_named (depth : Nat) {label : String} {fields : Fields} :
    ∀ (cases : Cases), cases.named? label = some fields →
      ∃ make : fields.El → cases.El,
        (∀ ms, cases.decode depth label ms = (fields.decode depth ms).map make) ∧
          ∀ vs, cases.decodeList depth label vs = (fields.decodeList depth vs).map make
  | .case _ _ rest, h => by
    obtain ⟨same, rfl⟩ | ⟨other, h⟩ := Cases.eq_of_named? h
    · exact ⟨.inl, fun _ => if_pos same, fun _ => if_pos same⟩
    · obtain ⟨make, inRecord, inList⟩ := rest.decode_named depth h
      refine ⟨fun x => .inr (make x), fun ms => ?_, fun vs => ?_⟩
      · refine (if_neg other).trans ?_
        rw [inRecord]
        exact Option.map_map _ _ _
      · refine (if_neg other).trans ?_
        rw [inList]
        exact Option.map_map _ _ _

/-! ## Holes -/

/-- The items of a list come of any one of them. -/
theorem mapM_insert (decode : Value → Option α) (before behind : List Value) :
    ComesOf (fun v => (before ++ v :: behind).mapM decode) decode := by
  refine (ComesOf.after (before.mapM decode) fun xs _ => ((ComesOf.refl decode).bind fun x =>
    (behind.mapM decode).map fun ys => xs ++ x :: ys)).congr fun v => ?_
  rw [List.mapM_append, List.mapM_cons]
  cases before.mapM decode with
  | none => rfl
  | some xs =>
    cases decode v with
    | none => rfl
    | some x =>
      cases behind.mapM decode with
      | none => rfl
      | some ys => rfl

theorem shallowItems_insert {depth : Nat} {before behind : List Value} {v : Value} :
    shallowItems depth (before ++ v :: behind) = true ↔
      v.shallow depth = true ∧ shallowItems depth (before ++ behind) = true := by
  simp only [shallowItems_iff, List.forall_mem_append, List.forall_mem_cons]
  exact and_left_comm

theorem shallowMembers_insert {depth : Nat} {name : String} {v : Value}
    {before behind : List (String × Value)} :
    shallowMembers depth (before ++ (name, v) :: behind) = true ↔
      v.shallow depth = true ∧ shallowMembers depth (before ++ behind) = true := by
  simp only [shallowMembers_iff, List.forall_mem_append, List.forall_mem_cons]
  exact and_left_comm

theorem shallow_list_insert {depth : Nat} {before behind : List Value} {v : Value} :
    (Value.list (before ++ v :: behind)).shallow depth = true ↔
      v.shallow (depth + 1) = true ∧ (Value.list (before ++ behind)).shallow depth = true := by
  rw [Value.shallow, Value.shallow, Bool.and_eq_true, Bool.and_eq_true, shallowItems_insert]
  exact and_left_comm

theorem shallow_record_insert {depth : Nat} {name : String} {v : Value}
    {before behind : List (String × Value)} :
    (Value.record (before ++ (name, v) :: behind)).shallow depth = true ↔
      v.shallow (depth + 1) = true ∧ (Value.record (before ++ behind)).shallow depth = true := by
  rw [Value.shallow, Value.shallow, Bool.and_eq_true, Bool.and_eq_true, shallowMembers_insert]
  exact and_left_comm

/-- A member under another key than the tag counts among those beside it. -/
theorem shallow_beside_tag_insert {tag name : String} (other : name ≠ tag) {depth : Nat} {v : Value}
    {before behind : List (String × Value)} :
    shallowMembers depth ((before ++ (name, v) :: behind).filter (·.1 ≠ tag)) = true ↔
      v.shallow depth = true ∧
        shallowMembers depth ((before ++ behind).filter (·.1 ≠ tag)) = true := by
  rw [List.filter_append, List.filter_cons_of_pos (by simpa using other), shallowMembers_insert,
    List.filter_append]

/-- A member of a union under another key than the tag makes no difference if it makes none to the
fields of the case, unless it is too deep. -/
theorem Schema.decode_tagged_insert {title tag label key : String} {cases : Cases}
    {fields : Fields} {depth : Nat} {v : Value} {before behind : List (String × Value)}
    (chosen : cases.named? label = some fields) (tagged : (tag, .text label) ∈ before ++ behind)
    (untagged : key ≠ tag) (low : v.shallow (depth + 1) = true)
    (row : fields.decode (depth + 1) (before ++ (key, v) :: behind) =
      fields.decode (depth + 1) (before ++ behind)) :
    (Schema.tagged title tag cases).decode depth (.record (before ++ (key, v) :: behind)) =
      (Schema.tagged title tag cases).decode depth (.record (before ++ behind)) := by
  refine congrArg (unlessDeep depth) ?_
  have others : shallowMembers (depth + 1) ((before ++ (key, v) :: behind).filter (·.1 ≠ tag)) =
      shallowMembers (depth + 1) ((before ++ behind).filter (·.1 ≠ tag)) := by
    rw [Bool.eq_iff_iff, shallow_beside_tag_insert untagged, and_iff_right low]
  obtain ⟨make, made, -⟩ := cases.decode_named (depth + 1) chosen
  have case (label' : String)
      (found : uniqueOr none (Value.decodeTag cases.names) (valuesUnder tag (before ++ behind)) =
        some label') :
      cases.decode (depth + 1) label' (before ++ (key, v) :: behind) =
        cases.decode (depth + 1) label' (before ++ behind) := by
    cases eq_of_decodeTag (mem_valuesUnder.mpr tagged) found
    rw [made, made, row]
  rw [others, valuesUnder_insert untagged]
  split
  · exact Option.bind_congr case
  · rfl

namespace Schema.Position

variable {outer inner : Schema} {holes : Nat} {plug : Value → Value}

/-- What stands in the hole must not be too deep, and the rest is as it is. -/
theorem shallow_iff (h : outer.Position holes plug inner) :
    ∀ depth, ∃ others : Prop, ∀ v,
      (plug v).shallow depth = true ↔ v.shallow (depth + holes) = true ∧ others := by
  induction h with
  | here => exact fun depth => ⟨True, fun v => (and_iff_left trivial).symm⟩
  | present _ ih => exact ih
  | item before behind _ ih | listed before behind _ _ ih | caseListed before behind _ _ _ ih =>
    intro depth
    obtain ⟨others, split⟩ := ih (depth + 1)
    exact ⟨_, fun v => by rw [shallow_list_insert, split, Nat.add_assoc, and_assoc]⟩
  | member before behind _ _ ih | caseMember before behind _ _ _ _ ih =>
    intro depth
    obtain ⟨others, split⟩ := ih (depth + 1)
    exact ⟨_, fun v => by rw [shallow_record_insert, split, Nat.add_assoc, and_assoc]⟩

/-- Only what stands in the hole can make the document nothing. -/
theorem ne_null (h : outer.Position holes plug inner) {v : Value} (present : v ≠ .null) :
    plug v ≠ .null := by
  induction h with
  | here => exact present
  | present _ ih => exact ih
  | item | listed | caseListed | member | caseMember => nofun

/-- Values that may stand in a hole inside so many lists and records: neither nothing nor too
deep. -/
def Filling (depth : Nat) : Type := { v : Value // v ≠ .null ∧ v.shallow depth = true }

/-- What a document is decoded as comes of what stands in the hole. -/
theorem decode_plug (h : outer.Position holes plug inner) : outer.WellFormed → ∀ depth,
    ComesOf (fun v : Filling (depth + holes) => outer.decode depth (plug v.1))
      fun v => inner.decode (depth + holes) v.1 := by
  induction h with
  | here schema => exact fun _ depth => .refl _
  | @present item inner _ plug position ih =>
    intro wf depth
    refine ((ih wf.2 depth).map some).congr fun v => ?_
    rw [Schema.decode]
    · rfl
    · exact position.ne_null v.2.1
  | item before behind _ ih =>
    intro wf depth
    have inside := ih wf (depth + 1)
    rw [Nat.add_assoc] at inside
    exact (((mapM_insert _ before behind).comp _).trans inside).unlessDeep depth
  | @listed _ _ fields _ _ _ plug before behind found _ ih =>
    intro wf depth
    have inside := ih (fields.wellFormed_of_nth? wf.2 found) (depth + 1)
    rw [Nat.add_assoc] at inside
    exact (((fields.decode_listed behind before found).comp _).trans inside).unlessDeep depth
  | @member _ closed fields name _ _ _ plug before behind found _ ih =>
    intro wf depth
    have inside := ih (fields.wellFormed_of_named? wf.2 found) (depth + 1)
    rw [Nat.add_assoc] at inside
    have row := ((fields.decode_member before behind wf.1 found).comp _).trans inside
    -- Whether the keys are known does not depend on the values under them.
    refine (row.ite (closed = true → (∀ m ∈ before, m.1 ∈ fields.names) ∧
      name ∈ fields.names ∧ ∀ m ∈ behind, m.1 ∈ fields.names) fun v => ?_).unlessDeep depth
    rw [List.forall_mem_append, List.forall_mem_cons]
  | @caseMember _ tag label cases fields name _ _ _ plug before behind chosen found tagged
      position ih =>
    intro wf depth
    obtain ⟨tagless, distinct, wf⟩ := cases.wellFormed_of_named? wf.2 chosen
    have inside := ih (fields.wellFormed_of_named? wf found) (depth + 1)
    rw [Nat.add_assoc] at inside
    have row := ((fields.decode_member before behind distinct found).comp _).trans inside
    obtain ⟨make, made, -⟩ := cases.decode_named (depth + 1) chosen
    have other : name ≠ tag := fun same => tagless (same ▸ Fields.mem_names_of_named? found)
    obtain ⟨others, low⟩ := position.shallow_iff (depth + 1)
    -- Neither the tag nor how deep the other members are depends on what stands in the hole.
    refine (ComesOf.ite (others ∧
      shallowMembers (depth + 1) ((before ++ behind).filter (·.1 ≠ tag)) = true)
      (fun v => ?_) ?_).unlessDeep depth
    · rw [shallow_beside_tag_insert other, low, Nat.add_assoc, and_iff_right v.2.2]
    · have tags (v : Value) : valuesUnder tag (before ++ (name, v) :: behind) =
          valuesUnder tag (before ++ behind) := valuesUnder_insert other v before behind
      simp only [tags]
      refine ComesOf.after _ fun name found => ?_
      cases eq_of_decodeTag (mem_valuesUnder.mpr tagged) found
      simp only [made]
      exact row.map make
  | @caseListed _ tag label cases fields _ _ _ plug before behind chosen found position ih =>
    intro wf depth
    obtain ⟨_, distinct, wf⟩ := cases.wellFormed_of_named? wf.2 chosen
    have inside := ih (fields.wellFormed_of_nth? wf found) (depth + 1)
    rw [Nat.add_assoc] at inside
    have row := ((fields.decode_listed behind before found).comp _).trans inside
    obtain ⟨make, -, made⟩ := cases.decode_named (depth + 1) chosen
    obtain ⟨others, low⟩ := position.shallow_iff (depth + 1)
    refine (ComesOf.ite (others ∧ shallowItems (depth + 1) (before ++ behind) = true)
      (fun v => ?_) ?_).unlessDeep depth
    · refine shallowItems_insert.trans ?_
      rw [low, Nat.add_assoc, and_iff_right v.2.2]
    · refine ComesOf.after _ fun name found => ?_
      cases eq_of_decodeTag (List.mem_singleton_self _) found
      simp only [made]
      exact row.map make

/-- A document that is decoded holds something that is decoded in the hole. -/
theorem decode_part (h : outer.Position holes plug inner) (wf : outer.WellFormed) {depth : Nat}
    {v : Value} (present : v ≠ .null) (low : (plug v).shallow depth = true) {x : outer.El}
    (decoded : outer.decode depth (plug v) = some x) :
    ∃ y, inner.decode (depth + holes) v = some y := by
  obtain ⟨next, comes⟩ := h.decode_plug wf depth
  obtain ⟨others, split⟩ := h.shallow_iff depth
  have comes := comes ⟨v, present, ((split v).mp low).1⟩
  obtain ⟨y, inside, -⟩ := Option.bind_eq_some_iff.mp (comes.symm.trans decoded)
  exact ⟨y, inside⟩

/-- What is decoded as the same may be exchanged in the hole. -/
theorem decode_exchange (h : outer.Position holes plug inner) (wf : outer.WellFormed)
    {depth : Nat} {v w : Value} (present : v ≠ .null ∧ w ≠ .null)
    (low : v.shallow (depth + holes) = true ∧ w.shallow (depth + holes) = true)
    (same : inner.decode (depth + holes) v = inner.decode (depth + holes) w) :
    outer.decode depth (plug v) = outer.decode depth (plug w) := by
  obtain ⟨next, comes⟩ := h.decode_plug wf depth
  have first := comes ⟨v, present.1, low.1⟩
  have second := comes ⟨w, present.2, low.2⟩
  dsimp only at first second
  rw [first, second, same]

/-- A schema at a position of a well-formed one is well-formed. -/
theorem wellFormed (h : outer.Position holes plug inner) :
    outer.WellFormed → inner.WellFormed := by
  induction h with
  | here => exact id
  | item _ _ _ ih => exact ih
  | present _ ih => exact fun wf => ih wf.2
  | member _ _ found _ ih => exact fun wf => ih (Fields.wellFormed_of_named? _ wf.2 found)
  | listed _ _ found _ ih => exact fun wf => ih (Fields.wellFormed_of_nth? _ wf.2 found)
  | caseMember _ _ chosen found _ _ ih =>
    exact fun wf =>
      ih (Fields.wellFormed_of_named? _ (Cases.wellFormed_of_named? _ wf.2 chosen).2.2 found)
  | caseListed _ _ chosen found _ ih =>
    exact fun wf =>
      ih (Fields.wellFormed_of_nth? _ (Cases.wellFormed_of_named? _ wf.2 chosen).2.2 found)

/-- A schema at a position of a closed one is closed. -/
theorem isClosed (h : outer.Position holes plug inner) :
    outer.isClosed = true → inner.isClosed = true := by
  induction h with
  | here => exact id
  | item _ _ _ ih | present _ ih => exact ih
  | member _ _ found _ ih =>
    exact fun closed => ih (Fields.isClosed_of_named? _ (Bool.and_eq_true_iff.mp closed).2 found)
  | listed _ _ found _ ih =>
    exact fun closed => ih (Fields.isClosed_of_nth? _ (Bool.and_eq_true_iff.mp closed).2 found)
  | caseMember _ _ chosen found _ _ ih =>
    exact fun closed =>
      ih (Fields.isClosed_of_named? _ (Cases.areClosed_of_named? _ closed chosen) found)
  | caseListed _ _ chosen found _ ih =>
    exact fun closed =>
      ih (Fields.isClosed_of_nth? _ (Cases.areClosed_of_named? _ closed chosen) found)

end Schema.Position

end HandlerWiring.Json
