import HandlerWiring.Json.Schema.Reader
import HandlerWiring.Proofs.Dictionary
import HandlerWiring.Proofs.Json.Schema

/-!
# Written documents are read back

The reader of a well-formed schema gives back the value from every node that shows the document
written for it, buffered or not, as long as the document fits the depth. The induction is on the
schema. For a record it is on the fields: a member that stands for the first field fills its slot
and is of no concern to the other fields, so the other members are read as if the first field were
not there.
-/

namespace HandlerWiring.Json

/-- A name at a position is found there if it stands at no other. -/
theorem chooseName_get {choices : List String} (distinct : choices.Nodup)
    (i : Fin choices.length) (stop : Place) : chooseName choices (choices.get i) stop = .ok i := by
  have found : choices.findFinIdx? (· == choices.get i) = some i := by
    rw [List.findFinIdx?_eq_some_iff]
    refine ⟨beq_self_eq_true _, ?_⟩
    intro j lower same
    exact List.pairwise_iff_getElem.mp distinct j i _ i.isLt lower (eq_of_beq same)
  rw [chooseName, found]

/-- Items that are read one by one as some values are read as these values. -/
theorem Items.readAll_map {α : Type} {read : Node → Except Fault α} {write : α → Value}
    {depth : Nat} (item : ∀ node x, node.Shows depth (write x) → read node = .ok x)
    {items : Items} {xs : List α} (h : items.Shows depth (xs.map write)) :
    items.readAll read = .ok xs := by
  induction xs generalizing items with
  | nil =>
    cases h
    rfl
  | cons x xs ih =>
    cases h with
    | more first behind =>
      rw [Items.readAll, item _ x first, ih behind]
      rfl

/-- Texts under keys are read as these entries. -/
theorem Entries.readPairs_map {depth : Nat} {entries : Entries} {pairs : List (String × String)}
    (h : entries.Shows depth (pairs.map fun entry => (entry.1, .text entry.2))) :
    entries.readPairs Node.readText = .ok pairs := by
  induction pairs generalizing entries with
  | nil =>
    cases h
    rfl
  | cons pair pairs ih =>
    cases h with
    | more first behind =>
      cases first
      rw [Entries.readPairs, ih behind]
      rfl

/-- A number of 32 bits is read as that number. -/
theorem Node.readWord_toNat {start stop : Place} (n : UInt32) :
    (Node.number start stop (.ok (.integer n.toNat))).readWord = .ok n := by
  have bound : 0 ≤ (n.toNat : Int) ∧ (n.toNat : Int) < 2 ^ (32 : Nat) := by
    have := n.toNat_lt
    omega
  rw [Node.readWord, if_pos bound, Int.toNat_natCast, UInt32.ofNat_toNat]

/-- A list or record up to the limit is let through. -/
theorem checkDepth_of_lt {start : Place} {depth : Nat} (h : depth < depthLimit) :
    checkDepth start depth = .ok () :=
  checkDepth_ok_iff.mpr h

/-! ## Schemas of lists and records -/

section

variable {buffered : Bool} {start : Place} {depth : Nat}

theorem Schema.read_list (item : Schema) (items : Items) (h : depth < depthLimit) :
    (Schema.list item).read buffered (.list start depth items) =
      items.readAll (item.read buffered) := by
  change (do checkDepth start depth; items.readAll (item.read buffered)) = _
  rw [checkDepth_of_lt h]
  rfl

theorem Schema.read_optional (item : Schema) {node : Node}
    (h : ∀ start stop, node ≠ .null start stop) :
    (Schema.optional item).read buffered node = (item.read buffered node).map some := by
  cases node with
  | null start stop => exact absurd rfl (h start stop)
  | _ => rfl

theorem Schema.read_dictionary (entries : Entries) (h : depth < depthLimit) :
    Schema.dictionary.read buffered (.record start depth entries) =
      (entries.readPairs Node.readText).map Dictionary.ofList := by
  change (do checkDepth start depth; return Dictionary.ofList (← entries.readPairs _)) = _
  rw [checkDepth_of_lt h]
  rfl

theorem Schema.read_record {title : String} {closed : Bool} (fields : Fields) (entries : Entries)
    (h : depth < depthLimit) :
    (Schema.record title closed fields).read buffered (.record start depth entries) = (do
      let (slots, stop) ←
        entries.readInto closed fields.names (fields.put buffered) fields.empty
      placedAt stop (fields.finish slots)) := by
  change (do checkDepth start depth; _) = _
  rw [checkDepth_of_lt h]
  rfl

theorem Schema.read_tagged {title tag : String} (cases : Cases) (entries : Entries)
    (h : depth < depthLimit) :
    (Schema.tagged title tag cases).read buffered (.record start depth entries) = (do
      let (found, stop) ← entries.findTag tag (Node.readTag cases.names) none
      match found with
      | none => .error (.atPlace (.missingField tag) stop)
      | some label => withoutPlace (cases.readEntries label entries)) := by
  change (do checkDepth start depth; _) = _
  rw [checkDepth_of_lt h]
  rfl

end

/-! ## Records -/

/-- Members that are not for a field are read as if the field were not there. -/
theorem Entries.readInto_field {closed buffered : Bool} {known : List String} {name : String}
    {presence : Presence} {schema : Schema} {rest : Fields} {depth : Nat} {entries : Entries}
    {ms : List (String × Value)} (h : entries.Shows depth ms) (absent : name ∉ ms.map (·.1))
    (slot : Option schema.El) (slots : rest.Slots) :
    entries.readInto closed known
        ((Fields.field name presence schema rest).put buffered) (slot, slots) =
      (entries.readInto closed known (rest.put buffered) slots).map
        fun r => ((slot, r.1), r.2) := by
  induction ms generalizing entries slots with
  | nil =>
    cases h
    rfl
  | cons m ms ih =>
    cases h with
    | @more _ _ _ key _ _ value behind _ _ first later =>
      rw [List.map_cons, List.mem_cons, not_or] at absent
      have other : ¬key = name := fun same => absent.1 same.symm
      simp only [Entries.readInto, Fields.put, if_neg other]
      cases rest.put buffered key value slots with
      | unknown =>
        cases closed with
        | true => rfl
        | false =>
          rw [first.skip]
          exact ih later absent.2 slots
      | duplicate => rfl
      | value result =>
        cases result with
        | error f => rfl
        | ok slots => exact ih later absent.2 slots

/-- A member for the first field fills its slot. -/
theorem Fields.put_first {buffered : Bool} (name : String) (presence : Presence) {schema : Schema}
    {rest : Fields} {node : Node} {x : schema.El} (slots : rest.Slots)
    (h : schema.read buffered node = .ok x) :
    (Fields.field name presence schema rest).put buffered name node (Option.none, slots) =
      .value (.ok (some x, slots)) := by
  rw [Fields.put]
  refine (if_pos rfl).trans ?_
  rw [h]

/-- A key that names no field is unknown. -/
theorem Fields.put_unknown {buffered : Bool} {key : String} {node : Node} :
    ∀ {fields : Fields} (slots : fields.Slots), key ∉ fields.names →
      fields.put buffered key node slots = .unknown
  | .none, _, _ => rfl
  | .field name _ _ rest, (slot, slots), h => by
    rw [Fields.names, List.mem_cons, not_or] at h
    simp only [Fields.put, if_neg h.1, put_unknown slots h.2]

/-- An open record is read past a member that names no field. -/
theorem Entries.readInto_unknown {resting keyStop keyResting : Place} {whenEnded : Fault}
    {buffered : Bool} {known : List String} {fields : Fields} {key : String} {node : Node}
    (rest : Entries) (slots : fields.Slots) (h : key ∉ fields.names) (skip : node.skip = .ok ()) :
    (Entries.more resting whenEnded (.ok key) keyStop keyResting node rest).readInto false known
        (fields.put buffered) slots =
      rest.readInto false known (fields.put buffered) slots := by
  simp only [Entries.readInto, Fields.put_unknown slots h, skip]
  rfl

/-- A tag that was not met before is found. -/
theorem Entries.findTag_first {resting keyStop keyResting start stop : Place} {whenEnded : Fault}
    {tag name : String} {names : List String} (rest : Entries) (h : name ∈ names) :
    (Entries.more resting whenEnded (.ok tag) keyStop keyResting (.text start stop (.ok name))
        rest).findTag tag (Node.readTag names) none =
      rest.findTag tag (Node.readTag names) (some name) := by
  have known : names.contains name = true := List.contains_iff_mem.mpr h
  simp only [Entries.findTag, if_true, Node.readTag, known]
  rfl

/-- Beside the tag, a reader that looks for it takes any members that are not too deep. -/
theorem Entries.findTag_some {tag : String} (name : String) (read : Node → Except Fault String)
    {depth : Nat} {entries : Entries} {ms : List (String × Value)} (h : entries.Shows depth ms)
    (absent : tag ∉ ms.map (·.1)) (shallow : shallowMembers depth ms = true) :
    ∃ stop, entries.findTag tag read (some name) = .ok (some name, stop) := by
  induction ms generalizing entries with
  | nil =>
    cases h
    exact ⟨_, rfl⟩
  | cons m ms ih =>
    cases h with
    | @more _ _ _ key _ _ value behind _ _ first later =>
      rw [List.map_cons, List.mem_cons, not_or] at absent
      rw [shallowMembers, Bool.and_eq_true] at shallow
      have other : ¬key = tag := fun same => absent.1 same.symm
      obtain ⟨stop, found⟩ := ih later absent.2 shallow.2
      refine ⟨stop, ?_⟩
      rw [Entries.findTag, if_neg other, first.sound_iff.mpr shallow.1]
      exact found

theorem Cases.readEntries_self {name : String} {fields : Fields} {rest : Cases} {entries : Entries}
    {slots : fields.Slots} {stop : Place} {row : fields.El}
    (run : entries.readInto false fields.names (fields.put true) fields.empty = .ok (slots, stop))
    (finish : fields.finish slots = .ok row) :
    (Cases.case name fields rest).readEntries name entries = .ok (.inl row) := by
  rw [Cases.readEntries]
  refine (if_pos rfl).trans ?_
  rw [run]
  exact congrArg (Except.map Sum.inl) finish

theorem Cases.readEntries_other {name label : String} {fields : Fields} {rest : Cases}
    {entries : Entries} {x : rest.El} (other : name ≠ label)
    (h : rest.readEntries label entries = .ok x) :
    (Cases.case name fields rest).readEntries label entries = .ok (.inr x) := by
  rw [Cases.readEntries]
  refine (if_neg other).trans ?_
  rw [h]
  rfl

/-! ## The round trip -/

mutual

/-- A node that shows the document of a value is read as that value. -/
theorem Schema.read_write (buffered : Bool) {depth : Nat} :
    ∀ (schema : Schema) (x : schema.El), schema.WellFormed → depth + schema.height ≤ depthLimit →
      ∀ {node : Node}, node.Shows depth (schema.write x) → schema.read buffered node = .ok x
  | .text, _, _, _, _, .text => rfl
  | .flag, _, _, _, _, .boolean => rfl
  | .word, n, _, _, _, .number => Node.readWord_toNat n
  | .name choices, i, wf, _, _, h => by
    cases h
    exact chooseName_get wf i _
  | .list item, items, wf, fits, node, shows => by
    obtain ⟨start, shown, rfl, h⟩ := Node.Shows.of_list shows
    rw [Schema.height] at fits
    have shallow : depth < depthLimit := by omega
    have each : ∀ node x, node.Shows (depth + 1) (item.write x) →
        item.read buffered node = .ok x :=
      fun _ x hx => item.read_write buffered x wf (by omega) hx
    rw [Schema.read_list item shown shallow]
    exact Items.readAll_map each h
  | .optional item, none, _, _, _, .null => rfl
  | .optional item, some x, ⟨plain, wf⟩, fits, node, h => by
    have present : item.write x ≠ .null := Schema.write_ne_null x plain
    have notNull : ∀ start stop, node ≠ .null start stop := by
      rintro start stop rfl
      exact present (Node.Shows.of_null h)
    rw [Schema.read_optional item notNull, item.read_write buffered x wf fits h]
    rfl
  | .dictionary, d, _, fits, node, shows => by
    obtain ⟨start, shown, rfl, h⟩ := Node.Shows.of_record shows
    rw [Schema.height] at fits
    have shallow : depth < depthLimit := by omega
    rw [Schema.read_dictionary shown shallow, Entries.readPairs_map h]
    exact congrArg Except.ok (Dictionary.ofList_entries d)
  | .record _ closed fields, row, ⟨distinct, wf⟩, fits, node, shows => by
    obtain ⟨start, shown, rfl, h⟩ := Node.Shows.of_record shows
    rw [Schema.height] at fits
    have shallow : depth < depthLimit := by omega
    obtain ⟨slots, stop, run, finish⟩ :=
      fields.read_write closed buffered fields.names row distinct wf (by omega) h
    rw [Schema.read_record fields shown shallow, run]
    exact congrArg (placedAt stop) finish
  | .tagged _ tag cases, x, ⟨distinct, wf⟩, fits, node, shows => by
    obtain ⟨start, shown, rfl, h⟩ := Node.Shows.of_record shows
    rw [Schema.height] at fits
    have shallow : depth < depthLimit := by omega
    obtain ⟨name, known, ms, written, absent, read⟩ :=
      cases.readEntries_write x distinct wf (by omega) h
    have low : shallowMembers (depth + 1) (cases.write tag x) = true :=
      cases.shallow_write tag x (by omega)
    rw [written, shallowMembers, Bool.and_eq_true] at low
    rw [Schema.read_tagged cases shown shallow]
    rw [written] at h
    cases h with
    | more first later =>
      cases first
      obtain ⟨stop, found⟩ :=
        Entries.findTag_some name (Node.readTag cases.names) later absent low.2
      rw [Entries.findTag_first _ known, found]
      change withoutPlace (cases.readEntries name _) = _
      rw [read]
      rfl
termination_by structural schema => schema

theorem Fields.read_write (closed buffered : Bool) (known : List String) {depth : Nat} :
    ∀ (fields : Fields) (row : fields.El), fields.names.Nodup → fields.WellFormed →
      depth + fields.height ≤ depthLimit →
      ∀ {entries : Entries}, entries.Shows depth (fields.write row) →
        ∃ slots stop, entries.readInto closed known (fields.put buffered) fields.empty =
          .ok (slots, stop) ∧ fields.finish slots = .ok row
  | .none, _, _, _, _, _, .close => ⟨_, _, rfl, rfl⟩
  | .field name presence schema rest, (x, row), distinct, ⟨quiet, wf, wfRest⟩, fits, entries,
    h => by
    obtain ⟨new, distinct⟩ := List.nodup_cons.mp distinct
    have absent : name ∉ (rest.write row).map (·.1) := fun hmem => new (rest.keys_write row hmem)
    rw [Fields.height] at fits
    rw [Fields.write] at h
    split at h
    · next omitted =>
      rw [Bool.and_eq_true] at omitted
      obtain ⟨slots, stop, run, finish⟩ :=
        rest.read_write closed buffered known row distinct wfRest (by omega) h
      refine ⟨(none, slots), stop, ?_, ?_⟩
      · rw [Fields.empty, Entries.readInto_field h absent, run]
        rfl
      · rw [Fields.finish, if_pos (quiet omitted.1), schema.default?_of_isDefault x omitted.2,
          finish]
        rfl
    · cases h with
      | more first later =>
        obtain ⟨slots, stop, run, finish⟩ :=
          rest.read_write closed buffered known row distinct wfRest (by omega) later
        refine ⟨(some x, slots), stop, ?_, ?_⟩
        · have put := Fields.put_first name presence rest.empty
            (schema.read_write buffered x wf (by omega) first)
          rw [Entries.readInto, Fields.empty, put]
          refine Eq.trans (Entries.readInto_field later absent _ _) ?_
          rw [run]
          rfl
        · rw [Fields.finish, finish]
          rfl
termination_by structural fields => fields

theorem Cases.readEntries_write {tag : String} {depth : Nat} :
    ∀ (cases : Cases) (x : cases.El), cases.names.Nodup → cases.WellFormed tag →
      depth + cases.height ≤ depthLimit →
      ∀ {entries : Entries}, entries.Shows depth (cases.write tag x) →
        ∃ name ∈ cases.names, ∃ ms, cases.write tag x = (tag, .text name) :: ms ∧
          tag ∉ ms.map (·.1) ∧ cases.readEntries name entries = .ok x
  | .none, x, _, _, _, _, _ => nomatch x
  | .case name fields rest, .inl row, _, ⟨tagless, distinct, wf, _⟩, fits, entries, h => by
    rw [Cases.height] at fits
    have absent : tag ∉ (fields.write row).map (·.1) := fun hmem =>
      tagless (fields.keys_write row hmem)
    refine ⟨name, List.mem_cons_self, fields.write row, rfl, absent, ?_⟩
    have shows : entries.Shows depth ((tag, .text name) :: fields.write row) := h
    cases shows with
    | more first later =>
      obtain ⟨slots, stop, run, finish⟩ :=
        fields.read_write false true fields.names row distinct wf (by omega) later
      refine Cases.readEntries_self (Eq.trans ?_ run) finish
      exact Entries.readInto_unknown _ fields.empty tagless first.skip
  | .case name fields rest, .inr x, distinct, ⟨_, _, _, wf⟩, fits, entries, h => by
    obtain ⟨new, distinct⟩ := List.nodup_cons.mp distinct
    rw [Cases.height] at fits
    obtain ⟨label, known, ms, written, absent, read⟩ :=
      rest.readEntries_write x distinct wf (by omega) h
    have other : name ≠ label := fun same => new (same ▸ known)
    refine ⟨label, List.mem_cons_of_mem _ known, ms, written, absent, ?_⟩
    exact Cases.readEntries_other other read
termination_by structural cases => cases

end

end HandlerWiring.Json
