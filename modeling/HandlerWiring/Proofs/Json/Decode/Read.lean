import HandlerWiring.Proofs.Json.Decode.Slot
import HandlerWiring.Proofs.Json.Schema

/-!
# Reading is decoding

For every node that shows a value, the reader of a well-formed schema gives what the value is
decoded as, and reports some fault if it is not decoded. It does not matter whether it is buffered.
The induction is on the schema.
-/

namespace HandlerWiring.Json

/-- A list must end where the reader takes it to end. -/
theorem Items.Shows.toOption_checkEnd {depth : Nat} {items : Items} {vs : List Value}
    (h : items.Shows depth vs) (buffered : Bool) (taken : Nat) :
    (items.checkEnd buffered taken).toOption = if vs.isEmpty then some () else none := by
  cases h with
  | close => rfl
  | more _ _ =>
    rw [Items.checkEnd]
    split
    · rfl
    · rfl

/-- A record in a list is read up to its end. -/
theorem Schema.toOption_read_list {buffered : Bool} {title : String} {closed : Bool}
    {fields : Fields} {start : Place} {depth : Nat} {items : Items} :
    ((Schema.record title closed fields).read buffered (.list start depth items)).toOption =
      unlessDeep depth
        ((fields.readList buffered ("struct " ++ title) fields.count items).toOption.bind fun r =>
          (r.2.checkEnd buffered fields.count).toOption.map fun _ => r.1) := by
  refine (toOption_checkDepth start depth _).trans (congrArg (unlessDeep depth) ?_)
  refine (toOption_bind _ _).trans (congrArg (Option.bind _) (funext fun r => ?_))
  exact toOption_bind_pure _ _

/-- The slots are finished, wherever the record ends. -/
theorem Fields.toOption_finishAt {fields : Fields} (r : Except Fault (fields.Slots × Place)) :
    (do let (slots, stop) ← r; placedAt stop (fields.finish slots)).toOption =
      (r.toOption.map (·.1)).bind fun slots => (fields.finish slots).toOption := by
  cases r with
  | error fault => rfl
  | ok r => exact toOption_placedAt _ _

/-- A record is decoded if its slots are filled and finished as its fields are decoded. -/
theorem Schema.toOption_read_record {buffered : Bool} {title : String} {closed : Bool}
    {fields : Fields} {start : Place} {depth : Nat} {entries : Entries}
    {ms : List (String × Value)} (h : entries.Shows (depth + 1) ms)
    (decoded : ((entries.slots? buffered fields.names fields fields.empty).bind fun slots =>
      (fields.finish slots).toOption) = fields.decode (depth + 1) ms) :
    ((Schema.record title closed fields).read buffered (.record start depth entries)).toOption =
      (Schema.record title closed fields).decode depth (.record ms) := by
  refine (toOption_checkDepth start depth _).trans (congrArg (unlessDeep depth) ?_)
  refine (Fields.toOption_finishAt _).trans ?_
  rw [← decoded]
  cases closed with
  | true =>
    rw [h.readInto_closed]
    by_cases known : ∀ m ∈ ms, m.1 ∈ fields.names
    · rw [if_pos known]
      exact (if_pos fun _ => known).symm
    · rw [if_neg known]
      exact (if_neg fun h => known (h rfl)).symm
  | false => exact (if_pos fun closed => absurd closed Bool.false_ne_true).symm

/-- The case that the tag names is read, wherever the record ends. -/
theorem toOption_chooseCase (tag : String) {cases : Cases} {depth : Nat} {entries : Entries}
    {ms : List (String × Value)}
    (decoded : ∀ name, (cases.readEntries name entries).toOption = cases.decode depth name ms)
    (r : Except Fault (Option String × Place)) :
    (do
      let (found, stop) ← r
      match found with
      | none => .error (.atPlace (.missingField tag) stop)
      | some label => withoutPlace (cases.readEntries label entries)).toOption =
      (r.toOption.map (·.1)).bind fun found =>
        found.bind fun label => cases.decode depth label ms := by
  cases r with
  | error fault => rfl
  | ok r =>
    obtain ⟨found, stop⟩ := r
    cases found with
    | none => rfl
    | some label => exact (toOption_withoutPlace _).trans (decoded label)

/-- A union is decoded if its tag is found and the case of that name is decoded. -/
theorem Schema.toOption_read_tagged {buffered : Bool} {title tag : String} {cases : Cases}
    {start : Place} {depth : Nat} {entries : Entries} {ms : List (String × Value)}
    (h : entries.Shows (depth + 1) ms)
    (decoded : ∀ name,
      (cases.readEntries name entries).toOption = cases.decode (depth + 1) name ms) :
    ((Schema.tagged title tag cases).read buffered (.record start depth entries)).toOption =
      (Schema.tagged title tag cases).decode depth (.record ms) := by
  refine (toOption_checkDepth start depth _).trans (congrArg (unlessDeep depth) ?_)
  refine (toOption_chooseCase tag decoded _).trans ?_
  rw [h.toOption_findTag, fillSlot_none]
  split
  · exact uniqueOr_bind _ _ _
  · rfl

/-- A union in a list is decoded if its first item is the tag and the case of that name is decoded
from the others. -/
theorem Schema.toOption_read_tagged_list {buffered : Bool} {title tag : String} {cases : Cases}
    {start : Place} {depth : Nat} {items : Items} {vs : List Value}
    (h : items.Shows (depth + 1) vs)
    (decoded : ∀ name {rest : Items} {vs : List Value}, rest.Shows (depth + 1) vs →
      (cases.readItems name rest).toOption = cases.decodeList (depth + 1) name vs) :
    ((Schema.tagged title tag cases).read buffered (.list start depth items)).toOption =
      (Schema.tagged title tag cases).decode depth (.list vs) := by
  cases h with
  | close =>
    refine (toOption_checkDepth start depth _).trans ?_
    exact ite_self none
  | more first behind =>
    refine (toOption_checkDepth start depth _).trans (congrArg (unlessDeep depth) ?_)
    refine (toOption_bind _ _).trans ?_
    rw [first.toOption_readTag]
    cases Value.decodeTag cases.names _ with
    | none => exact (ite_self none).symm
    | some label =>
      refine (toOption_bind _ _).trans ?_
      have low := behind.sound_iff
      split
      · next shallow =>
        rw [low.mpr shallow]
        exact (toOption_withoutPlace _).trans (decoded label behind)
      · next deep =>
        rw [← low] at deep
        cases sound : Items.sound _ with
        | error fault => rfl
        | ok u => exact absurd sound deep

mutual

/-- For a node that shows a value, the reader gives what the value is decoded as, and a fault if it
is not decoded. -/
theorem Schema.toOption_read (buffered : Bool) {depth : Nat} :
    ∀ (schema : Schema), schema.WellFormed → ∀ {node : Node} {v : Value}, node.Shows depth v →
      (schema.read buffered node).toOption = schema.decode depth v
  | .text, _, _, _, h => h.toOption_readText
  | .flag, _, _, _, h => h.toOption_readFlag
  | .word, _, _, _, h => h.toOption_readWord
  | .name choices, _, _, _, h => h.toOption_readName choices
  | .list item, wf, node, v, h => by
    cases h with
    | list h =>
      refine (toOption_checkDepth _ depth _).trans (congrArg (unlessDeep depth) ?_)
      exact h.toOption_readAll fun _ _ shows => item.toOption_read buffered wf shows
    | _ => rfl
  | .optional item, ⟨_, wf⟩, node, v, h => by
    have present :
        ((item.read buffered node).map some).toOption = (item.decode depth v).map some := by
      rw [← item.toOption_read buffered wf h]
      cases item.read buffered node with
      | error fault => rfl
      | ok x => rfl
    cases h with
    | null => rfl
    | _ => exact present
  | .dictionary, _, node, v, h => by
    cases h with
    | record h =>
      refine (toOption_checkDepth _ depth _).trans (congrArg (unlessDeep depth) ?_)
      refine (toOption_bind_pure _ _).trans ?_
      exact congrArg (Option.map Dictionary.ofList) h.toOption_readPairs
    | _ => rfl
  | .record title closed fields, ⟨distinct, wf⟩, node, v, h => by
    cases h with
    | record h =>
      exact Schema.toOption_read_record h (fields.toOption_readInto buffered _ distinct wf h)
    | list h =>
      rw [Schema.toOption_read_list]
      exact congrArg (unlessDeep depth) (fields.toOption_readList buffered _ _ _ wf h)
    | _ => rfl
  | .tagged _ tag cases, ⟨_, wf⟩, node, v, h => by
    cases h with
    | record h =>
      exact Schema.toOption_read_tagged h fun name => cases.toOption_readEntries name wf h
    | list h =>
      exact Schema.toOption_read_tagged_list h fun name => cases.toOption_readItems name wf
    | _ => rfl
termination_by structural schema => schema

theorem Fields.toOption_readInto (buffered : Bool) (known : List String) {depth : Nat} :
    ∀ (fields : Fields), fields.names.Nodup → fields.WellFormed →
      ∀ {entries : Entries} {ms : List (String × Value)}, entries.Shows depth ms →
        ((entries.slots? buffered known fields fields.empty).bind fun slots =>
          (fields.finish slots).toOption) = fields.decode depth ms
  | .none, _, _, entries, ms, h => by
    have skipped : entries.slots? buffered known .none () = some () := by
      induction ms generalizing entries with
      | nil =>
        cases h
        rfl
      | cons m ms ih =>
        cases h with
        | more first later => exact (Entries.slots?_more _ _ first.skip).trans (ih _ later)
    exact congrArg (Option.bind · _) skipped
  | .field name presence schema rest, distinct, ⟨_, wf, wfRest⟩, entries, ms, h => by
    obtain ⟨new, distinct⟩ := List.nodup_cons.mp distinct
    exact h.decode_field (fun _ _ shows => schema.toOption_read buffered wf shows) new
      (rest.toOption_readInto buffered known distinct wfRest h)
termination_by structural fields => fields

theorem Fields.toOption_readList (buffered : Bool) (whole : String) (total taken : Nat)
    {depth : Nat} :
    ∀ (fields : Fields), fields.WellFormed →
      ∀ {items : Items} {vs : List Value}, items.Shows depth vs →
        ((fields.readList buffered whole total items).toOption.bind fun r =>
          (r.2.checkEnd buffered taken).toOption.map fun _ => r.1) = fields.decodeList depth vs
  | .none, _, items, vs, h => by
    change (Items.checkEnd buffered taken items).toOption.map (fun _ => ()) = _
    rw [h.toOption_checkEnd, Fields.decodeList]
    cases vs.isEmpty with
    | true => rfl
    | false => rfl
  | .field name presence schema rest, ⟨_, wf, wfRest⟩, items, vs, h => by
    -- The first field is read, or given its default, and the others are read behind it.
    have behind (x : schema.El) {items : Items} {vs : List Value} (h : items.Shows depth vs) :
        ((do
          let (row, last) ← rest.readList buffered whole total items
          return ((x, row), last) : Except Fault ((schema.El × rest.El) × Items)).toOption.bind
          fun r => (r.2.checkEnd buffered taken).toOption.map fun _ => r.1) =
        (rest.decodeList depth vs).map (x, ·) := by
      rw [← rest.toOption_readList buffered whole total taken wfRest h]
      cases rest.readList buffered whole total items with
      | error fault => rfl
      | ok r =>
        change (r.2.checkEnd buffered taken).toOption.map (fun _ => (x, r.1)) =
          ((r.2.checkEnd buffered taken).toOption.map fun _ => r.1).map (x, ·)
        rw [Option.map_map]
        rfl
    cases h with
    | close =>
      rw [Fields.readList, Fields.decodeList]
      dsimp only
      cases (if presence.listMayLack then schema.default? else Option.none) with
      | none => rfl
      | some x => exact behind x .close
    | more first later =>
      have here := schema.toOption_read buffered wf first
      rw [Fields.readList, Fields.decodeList]
      dsimp only
      rw [← here]
      cases schema.read buffered _ with
      | error fault => rfl
      | ok x => exact behind x later
termination_by structural fields => fields

theorem Cases.toOption_readEntries (name : String) {tag : String} {depth : Nat} :
    ∀ (cases : Cases), cases.WellFormed tag →
      ∀ {entries : Entries} {ms : List (String × Value)}, entries.Shows depth ms →
        (cases.readEntries name entries).toOption = cases.decode depth name ms
  | .none, _, _, _, _ => rfl
  | .case n fields rest, ⟨_, distinct, wf, wfRest⟩, entries, ms, h => by
    by_cases same : n = name
    · refine (congrArg Except.toOption (if_pos same)).trans (Eq.trans ?_ (if_pos same).symm)
      rw [← fields.toOption_readInto true fields.names distinct wf h]
      have finished (r : Except Fault (fields.Slots × Place)) :
          (do let (slots, _) ← r; return Sum.inl (← fields.finish slots) :
            Except Fault (fields.El ⊕ rest.El)).toOption =
          ((r.toOption.map (·.1)).bind fun slots => (fields.finish slots).toOption).map .inl := by
        cases r with
        | error fault => rfl
        | ok r => exact toOption_bind_pure _ _
      exact finished _
    · refine (congrArg Except.toOption (if_neg same)).trans (Eq.trans ?_ (if_neg same).symm)
      rw [← rest.toOption_readEntries name wfRest h]
      exact toOption_bind_pure _ _
termination_by structural cases => cases

theorem Cases.toOption_readItems (name : String) {tag : String} {depth : Nat} :
    ∀ (cases : Cases), cases.WellFormed tag →
      ∀ {items : Items} {vs : List Value}, items.Shows depth vs →
        (cases.readItems name items).toOption = cases.decodeList depth name vs
  | .none, _, _, _, _ => rfl
  | .case n fields rest, ⟨_, distinct, wf, wfRest⟩, items, vs, h => by
    by_cases same : n = name
    · refine (congrArg Except.toOption (if_pos same)).trans (Eq.trans ?_ (if_pos same).symm)
      rw [← fields.toOption_readList true ("struct variant " ++ n) fields.count fields.count wf h]
      have ended (r : Except Fault (fields.El × Items)) :
          (do let (row, last) ← r; last.checkEnd true fields.count; return Sum.inl row :
            Except Fault (fields.El ⊕ rest.El)).toOption =
          (r.toOption.bind fun r =>
            (r.2.checkEnd true fields.count).toOption.map fun _ => r.1).map .inl := by
        cases r with
        | error fault => rfl
        | ok r =>
          refine (toOption_bind_pure (r.2.checkEnd true fields.count) _).trans ?_
          exact (Option.map_map _ _ _).symm
      exact ended _
    · refine (congrArg Except.toOption (if_neg same)).trans (Eq.trans ?_ (if_neg same).symm)
      rw [← rest.toOption_readItems name wfRest h]
      exact toOption_bind_pure _ _
termination_by structural cases => cases

end

end HandlerWiring.Json
