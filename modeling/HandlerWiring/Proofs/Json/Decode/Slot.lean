import HandlerWiring.Proofs.Json.Decode
import HandlerWiring.Proofs.Json.Reader

/-!
# Slots and looking up

The reader goes through the members of a record once and fills a slot for each field. A slot holds
in the end what is found under its key, so the fields can be looked up one by one instead. The tag
of a union is found like a field.
-/

namespace HandlerWiring.Json

/-! ## One slot -/

/-- What is in the slot of a key once the members have been gone through. A member under the key
fills the slot, and must not find it filled. -/
def fillSlot (decode : Value → Option α) (key : String) :
    List (String × Value) → Option α → Option (Option α)
  | [], slot => some slot
  | (k, v) :: ms, slot =>
    if k = key then
      match slot with
      | none => (decode v).bind fun x => fillSlot decode key ms (some x)
      | some _ => none
    else fillSlot decode key ms slot

/-- A filled slot stays as it is, and there must be nothing for it. -/
theorem fillSlot_some (decode : Value → Option α) (key : String) (ms : List (String × Value))
    (x : α) :
    fillSlot decode key ms (some x) =
      uniqueOr (some (some x)) (fun _ => none) (valuesUnder key ms) := by
  induction ms with
  | nil => rfl
  | cons m ms ih =>
    obtain ⟨k, v⟩ := m
    rw [fillSlot]
    split
    · next same =>
      rw [same, valuesUnder_self]
      cases valuesUnder key ms with
      | nil => rfl
      | cons w ws => rfl
    · next other => rw [valuesUnder_other other, ih]

/-- An empty slot is filled with the one value that there is for it. -/
theorem fillSlot_none (decode : Value → Option α) (key : String) (ms : List (String × Value)) :
    fillSlot decode key ms none =
      uniqueOr (some none) (fun v => (decode v).map some) (valuesUnder key ms) := by
  induction ms with
  | nil => rfl
  | cons m ms ih =>
    obtain ⟨k, v⟩ := m
    rw [fillSlot]
    split
    · next same =>
      rw [same, valuesUnder_self]
      simp only [fillSlot_some]
      cases valuesUnder key ms with
      | nil =>
        dsimp only [uniqueOr]
        cases decode v with
        | none => rfl
        | some x => rfl
      | cons w ws =>
        have refused (x : α) : uniqueOr (some (some x)) (fun _ => none) (w :: ws) = none := by
          cases ws with
          | nil => rfl
          | cons _ _ => rfl
        simp only [refused, Option.bind_fun_none]
        rfl
    · next other => rw [valuesUnder_other other, ih]

/-! ## All slots -/

/-- The slots that the members of an open record fill. -/
def Entries.slots? (buffered : Bool) (known : List String) (fields : Fields) (entries : Entries)
    (slots : fields.Slots) : Option fields.Slots :=
  (entries.readInto false known (fields.put buffered) slots).toOption.map (·.1)

/-- A member of an open record is put into its slot, or skipped. -/
theorem Entries.slots?_more {buffered : Bool} {known : List String} {fields : Fields}
    {resting keyStop keyResting : Place} {whenEnded : Fault} {key : String} {value : Node}
    (rest : Entries) (slots : fields.Slots) (skip : value.skip = .ok ()) :
    (Entries.more resting whenEnded (.ok key) keyStop keyResting value rest).slots? buffered known
        fields slots =
      match fields.put buffered key value slots with
      | .unknown => rest.slots? buffered known fields slots
      | .duplicate => none
      | .value (.ok slots) => rest.slots? buffered known fields slots
      | .value (.error _) => none := by
  unfold slots?
  rw [Entries.readInto]
  cases fields.put buffered key value slots with
  | unknown =>
    rw [skip]
    rfl
  | duplicate => rfl
  | value result =>
    cases result with
    | error fault => rfl
    | ok slots => rfl

/-- The slot of the first field is filled as if there were no other fields, and these are filled as
if there were no first. -/
theorem Entries.Shows.slots?_field {buffered : Bool} {known : List String} {name : String}
    {presence : Presence} {schema : Schema} {rest : Fields} {depth : Nat}
    (each : ∀ node v, node.Shows depth v →
      (schema.read buffered node).toOption = schema.decode depth v)
    (new : name ∉ rest.names) {entries : Entries} {ms : List (String × Value)}
    (h : entries.Shows depth ms) (slot : Option schema.El) (slots : rest.Slots) :
    entries.slots? buffered known (.field name presence schema rest) (slot, slots) =
      (fillSlot (schema.decode depth) name ms slot).bind fun slot =>
        (entries.slots? buffered known rest slots).map fun slots => (slot, slots) := by
  induction ms generalizing entries slot slots with
  | nil =>
    cases h
    rfl
  | cons m ms ih =>
    cases h with
    | @more _ _ _ key _ _ value behind v _ first later =>
      refine Eq.trans (Entries.slots?_more behind _ first.skip) ?_
      rw [Entries.slots?_more behind slots first.skip]
      by_cases same : key = name
      · subst same
        simp only [fillSlot, Fields.put, if_pos, Fields.put_unknown slots new]
        cases slot with
        | some x => rfl
        | none =>
          have here := each value v first
          cases read : schema.read buffered value with
          | error fault =>
            rw [read] at here
            rw [← here]
            rfl
          | ok x =>
            rw [read] at here
            rw [← here]
            exact ih later (some x) slots
      · simp only [fillSlot, Fields.put, if_neg same]
        cases rest.put buffered key value slots with
        | unknown => exact ih later slot slots
        | duplicate => exact (Option.bind_fun_none _).symm
        | value result =>
          cases result with
          | error fault => exact (Option.bind_fun_none _).symm
          | ok slots => exact ih later slot slots

/-- A key that names a field is known. -/
theorem Fields.put_known (buffered : Bool) {key : String} (node : Node) :
    ∀ {fields : Fields} (slots : fields.Slots), key ∈ fields.names →
      fields.put buffered key node slots ≠ .unknown
  | .none, _, h => (List.not_mem_nil h).elim
  | .field name _ _ rest, (slot, slots), h => by
    by_cases same : key = name
    · simp only [Fields.put, if_pos same]
      cases slot with
      | none => rintro ⟨⟩
      | some x => rintro ⟨⟩
    · have known := put_known buffered node slots ((List.mem_cons.mp h).resolve_left same)
      simp only [Fields.put, if_neg same]
      cases others : rest.put buffered key node slots with
      | unknown => exact absurd others known
      | duplicate => rintro ⟨⟩
      | value result =>
        cases result with
        | error fault => rintro ⟨⟩
        | ok slots => rintro ⟨⟩

/-- A closed record is read like an open one, unless one of its keys is unknown. -/
theorem Entries.Shows.readInto_closed {buffered : Bool} {known : List String} {fields : Fields}
    {depth : Nat} {entries : Entries} {ms : List (String × Value)} (h : entries.Shows depth ms)
    (slots : fields.Slots) :
    (entries.readInto true known (fields.put buffered) slots).toOption.map (·.1) =
      if ∀ m ∈ ms, m.1 ∈ fields.names then entries.slots? buffered known fields slots
      else none := by
  induction ms generalizing entries slots with
  | nil =>
    cases h
    rfl
  | cons m ms ih =>
    cases h with
    | @more _ _ _ key _ _ value behind v _ first later =>
      rw [Entries.slots?_more behind slots first.skip, Entries.readInto]
      simp only [List.forall_mem_cons]
      by_cases named : key ∈ fields.names
      · have known := Fields.put_known buffered value slots named
        simp only [named, true_and]
        cases put : fields.put buffered key value slots with
        | unknown => exact absurd put known
        | duplicate => exact (ite_self none).symm
        | value result =>
          cases result with
          | error fault => exact (ite_self none).symm
          | ok slots => exact ih later slots
      · simp only [named, false_and, Fields.put_unknown slots named, if_false]
        rfl

/-- Once no more members are to come, an empty slot is given the default of its field. -/
theorem Fields.toOption_finish {name : String} {presence : Presence} {schema : Schema}
    {rest : Fields} (slot : Option schema.El) (slots : rest.Slots) :
    ((Fields.field name presence schema rest).finish (slot, slots)).toOption =
      (slot.or (if presence.recordMayLack then schema.default? else Option.none)).bind fun x =>
        (rest.finish slots).toOption.map (x, ·) := by
  have given (x : schema.El) :
      (do let row ← rest.finish slots; return (x, row) : Except Fault _).toOption =
        (rest.finish slots).toOption.map (x, ·) := by
    cases rest.finish slots with
    | error fault => rfl
    | ok row => rfl
  cases slot with
  | some x => exact given x
  | none =>
    rw [Fields.finish, Option.none_or]
    cases (if presence.recordMayLack then schema.default? else Option.none) with
    | none => rfl
    | some x => exact given x

/-- Slots that are filled apart from each other are finished apart from each other. -/
theorem bind_slots (first : Option (Option α)) (slots : Option σ) {absent : Option α}
    (finish : σ → Option β) (finishAll : Option α × σ → Option (α × β))
    (apart : ∀ slot slots,
      finishAll (slot, slots) = (slot.or absent).bind fun x => (finish slots).map (x, ·)) :
    (first.bind fun slot => slots.map fun slots => (slot, slots)).bind finishAll =
      (first.bind fun slot => slot.or absent).bind fun x => (slots.bind finish).map (x, ·) := by
  cases first with
  | none => rfl
  | some slot =>
    cases slots with
    | none => exact (Option.bind_fun_none _).symm
    | some slots => exact apart slot slots

/-- The fields of an open record are decoded if the first one and the others are. -/
theorem Entries.Shows.decode_field {buffered : Bool} {known : List String} {name : String}
    {presence : Presence} {schema : Schema} {rest : Fields} {depth : Nat}
    (each : ∀ node v, node.Shows depth v →
      (schema.read buffered node).toOption = schema.decode depth v)
    (new : name ∉ rest.names) {entries : Entries} {ms : List (String × Value)}
    (h : entries.Shows depth ms)
    (others : ((entries.slots? buffered known rest rest.empty).bind fun slots =>
      (rest.finish slots).toOption) = rest.decode depth ms) :
    let fields := Fields.field name presence schema rest
    ((entries.slots? buffered known fields fields.empty).bind fun slots =>
      (fields.finish slots).toOption) = fields.decode depth ms := by
  intro fields
  have field : entries.slots? buffered known fields fields.empty =
      (fillSlot (schema.decode depth) name ms none).bind fun slot =>
        (entries.slots? buffered known rest rest.empty).map fun slots => (slot, slots) :=
    h.slots?_field each new none rest.empty
  have apart := bind_slots (fillSlot (schema.decode depth) name ms none)
    (entries.slots? buffered known rest rest.empty) (fun slots => (rest.finish slots).toOption)
    (fun slots => (fields.finish slots).toOption) Fields.toOption_finish
  rw [← field] at apart
  refine apart.trans ?_
  rw [fillSlot_none, uniqueOr_or, others, Fields.decode]
  rfl

/-! ## Tags -/

/-- The tag is found like a field, if the other members are not too deep. -/
theorem Entries.Shows.toOption_findTag {tag : String} (names : List String) {depth : Nat}
    {entries : Entries} {ms : List (String × Value)} (h : entries.Shows depth ms)
    (found : Option String) :
    (entries.findTag tag (Node.readTag names) found).toOption.map (·.1) =
      if shallowMembers depth (ms.filter (·.1 ≠ tag)) = true then
        fillSlot (Value.decodeTag names) tag ms found
      else none := by
  induction ms generalizing entries found with
  | nil =>
    cases h
    rfl
  | cons m ms ih =>
    cases h with
    | @more _ _ _ key _ _ value behind v _ first later =>
      by_cases same : key = tag
      · have kept : ((key, v) :: ms).filter (·.1 ≠ tag) = ms.filter (·.1 ≠ tag) := by
          rw [List.filter_cons_of_neg]
          simp [same]
        rw [kept]
        simp only [Entries.findTag, fillSlot, if_pos same]
        cases found with
        | some _ => exact (ite_self none).symm
        | none =>
          have here := first.toOption_readTag names
          dsimp only
          rw [← here]
          cases value.readTag names with
          | error fault => exact (ite_self none).symm
          | ok name => exact ih later (some name)
      · have kept : ((key, v) :: ms).filter (·.1 ≠ tag) = (key, v) :: ms.filter (·.1 ≠ tag) := by
          rw [List.filter_cons_of_pos]
          simp [same]
        rw [kept]
        simp only [Entries.findTag, fillSlot, if_neg same, shallowMembers]
        cases sound : value.sound with
        | ok u =>
          rw [first.sound_iff.mp sound, Bool.true_and]
          exact ih later found
        | error fault =>
          have deep : v.shallow depth = false := by
            rw [← Bool.not_eq_true, ← first.sound_iff, sound]
            rintro ⟨⟩
          rw [deep]
          rfl

end HandlerWiring.Json
