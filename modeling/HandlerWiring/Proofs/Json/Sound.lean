import HandlerWiring.Json.Schema.Reader
import HandlerWiring.Proofs.Json.Node

/-!
# What a reader accepts is without faults

A reader meets every part of a document except the unknown members of an open record, which it
skips. So a node that is read by a schema without open records is sound: no fault stands in it, and
nothing in it is too deep. The record of a tagged union is no exception, although its unknown
members are passed over: everything beside the tag is first taken as any value.
-/

namespace HandlerWiring.Json

mutual

/-- Whether every record of a schema is closed, wherever it stands. -/
def Schema.isClosed : Schema → Bool
  | .text | .flag | .word | .name _ | .dictionary => true
  | .list item => item.isClosed
  | .optional item => item.isClosed
  | .record _ closed fields => closed && fields.areClosed
  | .tagged _ _ cases => cases.areClosed
termination_by structural schema => schema

/-- `Schema.isClosed` of all fields. -/
def Fields.areClosed : Fields → Bool
  | .none => true
  | .field _ _ schema rest => schema.isClosed && rest.areClosed
termination_by structural fields => fields

/-- `Schema.isClosed` of the fields of all cases. -/
def Cases.areClosed : Cases → Bool
  | .none => true
  | .case _ fields rest => fields.areClosed && rest.areClosed
termination_by structural cases => cases

end

/-! ## Steps that succeed -/

/-- Of two steps that succeed one after the other, each does. -/
theorem ok_of_bind {r : Except Fault α} {next : α → Except Fault β} {y : β}
    (h : (r >>= next) = .ok y) : ∃ x, r = .ok x ∧ next x = .ok y := by
  cases r with
  | error fault => cases h
  | ok x => exact ⟨x, rfl, h⟩

theorem ok_of_placedAt {p : Place} {r : Except Fault α} {x : α} (h : placedAt p r = .ok x) :
    r = .ok x := by
  cases r with
  | error fault => cases h
  | ok y => exact h

/-- A list or record that is let through is sound if its items or entries are. -/
theorem sound_of_checkDepth {start : Place} {depth : Nat} {r : Except Fault α}
    {sound : Except Fault Unit} {y : α} (h : (do checkDepth start depth; r) = .ok y)
    (inner : r = .ok y → sound = .ok ()) : (do checkDepth start depth; sound) = .ok () := by
  obtain ⟨_, check, h⟩ := ok_of_bind h
  exact bind_ok_iff.mpr ⟨check, inner h⟩

/-! ## Scalars -/

section

variable {node : Node}

theorem Node.sound_of_readText {s : String} (h : node.readText = .ok s) : node.sound = .ok () := by
  cases node with
  | text _ _ value =>
    cases value with
    | error fault => cases h
    | ok _ => rfl
  | _ => cases h

theorem Node.sound_of_readFlag {b : Bool} (h : node.readFlag = .ok b) : node.sound = .ok () := by
  cases node with
  | boolean => rfl
  | _ => cases h

theorem Node.sound_of_readWord {n : UInt32} (h : node.readWord = .ok n) : node.sound = .ok () := by
  cases node with
  | number _ _ value =>
    cases value with
    | error fault => cases h
    | ok _ => rfl
  | _ => cases h

theorem Node.sound_of_readTag {names : List String} {name : String}
    (h : node.readTag names = .ok name) : node.sound = .ok () := by
  cases node with
  | text _ _ value =>
    cases value with
    | error fault => cases h
    | ok _ => rfl
  | _ => cases h

theorem Node.sound_of_readUnit (h : node.readUnit = .ok ()) : node.sound = .ok () := by
  cases node with
  | null => rfl
  | _ => cases h

theorem Node.sound_of_readName {choices : List String} {i : Fin choices.length}
    (h : node.readName choices = .ok i) : node.sound = .ok () := by
  cases node with
  | text _ _ value =>
    cases value with
    | error fault => cases h
    | ok _ => rfl
  | record start depth entries =>
    refine sound_of_checkDepth h fun h => ?_
    cases entries with
    | close => cases h
    | broken => cases h
    | more _ _ key _ _ value rest =>
      cases key with
      | error fault => cases h
      | ok name =>
        obtain ⟨_, _, h⟩ := ok_of_bind h
        obtain ⟨_, unit, h⟩ := ok_of_bind h
        cases rest with
        | close => exact bind_ok_iff.mpr ⟨Node.sound_of_readUnit unit, rfl⟩
        | broken => cases h
        | more => cases h
  | _ => cases h

end

/-! ## Lists and dictionaries -/

theorem Items.sound_of_readAll {read : Node → Except Fault α}
    (each : ∀ node x, read node = .ok x → node.sound = .ok ()) :
    ∀ (items : Items) {xs : List α}, items.readAll read = .ok xs → items.sound = .ok ()
  | .close _, _, _ => rfl
  | .broken .., _, h => nomatch h
  | .more _ _ item rest, _, h => by
    obtain ⟨x, first, h⟩ := ok_of_bind h
    obtain ⟨_, others, _⟩ := ok_of_bind h
    exact bind_ok_iff.mpr ⟨each _ x (ok_of_placedAt first), rest.sound_of_readAll each others⟩

theorem Items.sound_of_checkEnd {buffered : Bool} {taken : Nat} {items : Items}
    (h : items.checkEnd buffered taken = .ok ()) : items.sound = .ok () := by
  cases items with
  | close => rfl
  | broken => cases h
  | more =>
    rw [Items.checkEnd] at h
    split at h
    · cases h
    · cases h

theorem Entries.sound_of_readPairs :
    ∀ (entries : Entries) {pairs : List (String × String)},
      entries.readPairs Node.readText = .ok pairs → entries.sound = .ok ()
  | .close _, _, _ => rfl
  | .broken .., _, h | .more _ _ (.error _) _ _ _ _, _, h => nomatch h
  | .more _ _ (.ok _) _ _ value rest, _, h => by
    obtain ⟨_, first, h⟩ := ok_of_bind h
    obtain ⟨_, others, _⟩ := ok_of_bind h
    exact bind_ok_iff.mpr
      ⟨Node.sound_of_readText (ok_of_placedAt first), rest.sound_of_readPairs others⟩

/-! ## Records and unions -/

/-- The entries of a closed record are sound if every member that is put into a slot is. -/
theorem Entries.sound_of_readInto {known : List String} {put : String → Node → σ → Put σ}
    (each : ∀ key node s t, put key node s = .value (.ok t) → node.sound = .ok ()) :
    ∀ (entries : Entries) {s : σ} {r : σ × Place},
      entries.readInto true known put s = .ok r → entries.sound = .ok ()
  | .close _, _, _, _ => rfl
  | .broken .., _, _, h | .more _ _ (.error _) _ _ _ _, _, _, h => nomatch h
  | .more _ _ (.ok key) _ _ value rest, s, _, h => by
    rw [Entries.readInto] at h
    cases result : put key value s with
    | unknown =>
      rw [result] at h
      cases h
    | duplicate =>
      rw [result] at h
      cases h
    | value t =>
      rw [result] at h
      obtain ⟨t, first, others⟩ := ok_of_bind h
      rw [ok_of_placedAt first] at result
      exact bind_ok_iff.mpr ⟨each key value s t result, rest.sound_of_readInto each others⟩

/-- The entries of a union are sound if its tag is found. -/
theorem Entries.sound_of_findTag {tag : String} {names : List String} :
    ∀ (entries : Entries) {found : Option String} {r : Option String × Place},
      entries.findTag tag (Node.readTag names) found = .ok r → entries.sound = .ok ()
  | .close _, _, _, _ => rfl
  | .broken .., _, _, h | .more _ _ (.error _) _ _ _ _, _, _, h => nomatch h
  | .more _ _ (.ok key) _ _ value rest, found, _, h => by
    by_cases same : key = tag
    · simp only [Entries.findTag, if_pos same] at h
      cases found with
      | some _ => cases h
      | none =>
        obtain ⟨_, first, others⟩ := ok_of_bind h
        exact bind_ok_iff.mpr ⟨Node.sound_of_readTag first, rest.sound_of_findTag others⟩
    · simp only [Entries.findTag, if_neg same] at h
      obtain ⟨_, first, others⟩ := ok_of_bind h
      exact bind_ok_iff.mpr ⟨first, rest.sound_of_findTag others⟩

mutual

/-- A node that is read is sound, if the schema is closed. -/
theorem Schema.sound_of_read (buffered : Bool) :
    ∀ (schema : Schema), schema.isClosed = true → ∀ (node : Node) (x : schema.El),
      schema.read buffered node = .ok x → node.sound = .ok ()
  | .text, _, _, _, h => Node.sound_of_readText h
  | .flag, _, _, _, h => Node.sound_of_readFlag h
  | .word, _, _, _, h => Node.sound_of_readWord h
  | .name _, _, _, _, h => Node.sound_of_readName h
  | .list item, all, node, _, h => by
    cases node with
    | list start depth items =>
      exact sound_of_checkDepth h fun h =>
        items.sound_of_readAll (item.sound_of_read buffered all) h
    | _ => cases h
  | .optional item, all, node, _, h => by
    cases node with
    | null => rfl
    | _ =>
      obtain ⟨x, h, _⟩ := ok_of_bind h
      exact item.sound_of_read buffered all _ x h
  | .dictionary, _, node, _, h => by
    cases node with
    | record start depth entries =>
      refine sound_of_checkDepth h fun h => ?_
      obtain ⟨_, h, _⟩ := ok_of_bind h
      exact entries.sound_of_readPairs h
    | _ => cases h
  | .record title closed fields, all, node, _, h => by
    rw [Schema.isClosed, Bool.and_eq_true] at all
    obtain ⟨rfl, all⟩ := all
    cases node with
    | record start depth entries =>
      refine sound_of_checkDepth h fun h => ?_
      obtain ⟨_, h, _⟩ := ok_of_bind h
      exact entries.sound_of_readInto (fields.sound_of_put buffered all) h
    | list start depth items =>
      refine sound_of_checkDepth h fun h => ?_
      obtain ⟨⟨_, rest⟩, h, ended⟩ := ok_of_bind h
      obtain ⟨_, ended, _⟩ := ok_of_bind ended
      exact fields.sound_of_readList buffered _ _ all h (Items.sound_of_checkEnd ended)
    | _ => cases h
  | .tagged title tag cases, _, node, _, h => by
    cases node with
    | record start depth entries =>
      refine sound_of_checkDepth h fun h => ?_
      obtain ⟨_, h, _⟩ := ok_of_bind h
      exact entries.sound_of_findTag h
    | list start depth items =>
      refine sound_of_checkDepth h fun h => ?_
      cases items with
      | close => rfl
      | broken => cases h
      | more _ _ item rest =>
        obtain ⟨_, first, h⟩ := ok_of_bind h
        obtain ⟨_, others, _⟩ := ok_of_bind h
        exact bind_ok_iff.mpr ⟨Node.sound_of_readTag first, others⟩
    | _ => cases h
termination_by structural schema => schema

/-- A member that is put into a slot is sound. -/
theorem Fields.sound_of_put (buffered : Bool) :
    ∀ (fields : Fields), fields.areClosed = true →
      ∀ (key : String) (node : Node) (slots slots' : fields.Slots),
        fields.put buffered key node slots = .value (.ok slots') → node.sound = .ok ()
  | .none, _, _, _, _, _, h => nomatch h
  | .field name presence schema rest, all, key, node, (slot, slots), _, h => by
    rw [Fields.areClosed, Bool.and_eq_true] at all
    by_cases same : key = name
    · simp only [Fields.put, if_pos same] at h
      cases slot with
      | some _ => cases h
      | none =>
        cases read : schema.read buffered node with
        | error fault =>
          rw [read] at h
          cases h
        | ok x => exact schema.sound_of_read buffered all.1 node x read
    · simp only [Fields.put, if_neg same] at h
      cases others : rest.put buffered key node slots with
      | unknown =>
        rw [others] at h
        cases h
      | duplicate =>
        rw [others] at h
        cases h
      | value result =>
        rw [others] at h
        cases result with
        | error fault => cases h
        | ok slots' => exact rest.sound_of_put buffered all.2 key node slots slots' others
termination_by structural fields => fields

/-- A list is sound whose first items are read as fields, if what is behind them is. -/
theorem Fields.sound_of_readList (buffered : Bool) (whole : String) (total : Nat) :
    ∀ (fields : Fields), fields.areClosed = true →
      ∀ {items rest : Items} {row : fields.El},
        fields.readList buffered whole total items = .ok (row, rest) → rest.sound = .ok () →
          items.sound = .ok ()
  | .none, _, _, _, _, h, sound => by
    cases h
    exact sound
  | .field name presence schema rest, all, items, _, _, h, sound => by
    rw [Fields.areClosed, Bool.and_eq_true] at all
    cases items with
    | close => rfl
    | broken => cases h
    | more _ _ item behind =>
      rw [Fields.readList] at h
      obtain ⟨x, first, h⟩ := ok_of_bind h
      obtain ⟨⟨_, _⟩, others, h⟩ := ok_of_bind h
      cases h
      exact bind_ok_iff.mpr
        ⟨schema.sound_of_read buffered all.1 item x (ok_of_placedAt first),
          rest.sound_of_readList buffered whole total all.2 others sound⟩
termination_by structural fields => fields

end

end HandlerWiring.Json
