import HandlerWiring.Json.Node

/-!
# Nodes that show a value

A node *shows* a value at a depth if no fault stands in it, its scalars are those of the value,
its lists and records are built alike, and each list and record in it is marked with the number of
lists and records around it. What a reader makes of such a node depends on the value and the depth
alone. Places, and the faults that other readers would have met, are left open.
-/

namespace HandlerWiring.Json

mutual

/-- A node shows a value at a depth. -/
inductive Node.Shows : Nat → Node → Value → Prop
  | null {depth : Nat} {start stop : Place} : Node.Shows depth (.null start stop) .null
  | boolean {depth : Nat} {start stop : Place} {b : Bool} :
    Node.Shows depth (.boolean start stop b) (.boolean b)
  | number {depth : Nat} {start stop : Place} {n : Number} :
    Node.Shows depth (.number start stop (.ok n)) (.number n)
  | text {depth : Nat} {start stop : Place} {s : String} :
    Node.Shows depth (.text start stop (.ok s)) (.text s)
  | list {depth : Nat} {start : Place} {items : Items} {vs : List Value} :
    Items.Shows (depth + 1) items vs → Node.Shows depth (.list start depth items) (.list vs)
  | record {depth : Nat} {start : Place} {entries : Entries} {ms : List (String × Value)} :
    Entries.Shows (depth + 1) entries ms →
      Node.Shows depth (.record start depth entries) (.record ms)

/-- The rest of a list shows the items of a list at a depth. -/
inductive Items.Shows : Nat → Items → List Value → Prop
  | close {depth : Nat} {stop : Place} : Items.Shows depth (.close stop) []
  | more {depth : Nat} {resting : Place} {whenEnded : Fault} {item : Node} {rest : Items}
      {v : Value} {vs : List Value} :
    Node.Shows depth item v → Items.Shows depth rest vs →
      Items.Shows depth (.more resting whenEnded item rest) (v :: vs)

/-- The rest of a record shows the members of a record at a depth. -/
inductive Entries.Shows : Nat → Entries → List (String × Value) → Prop
  | close {depth : Nat} {stop : Place} : Entries.Shows depth (.close stop) []
  | more {depth : Nat} {resting : Place} {whenEnded : Fault} {key : String}
      {keyStop keyResting : Place} {value : Node} {rest : Entries} {v : Value}
      {ms : List (String × Value)} :
    Node.Shows depth value v → Entries.Shows depth rest ms →
      Entries.Shows depth (.more resting whenEnded (.ok key) keyStop keyResting value rest)
        ((key, v) :: ms)

end

/-- What shows as nothing is nothing. -/
theorem Node.Shows.of_null {depth : Nat} {start stop : Place} {v : Value}
    (h : Node.Shows depth (.null start stop) v) : v = .null := by
  cases h
  rfl

/-- A node that shows a list is a list. -/
theorem Node.Shows.of_list {depth : Nat} {node : Node} {vs : List Value}
    (h : node.Shows depth (.list vs)) :
    ∃ start items, node = .list start depth items ∧ items.Shows (depth + 1) vs := by
  cases h with
  | list h => exact ⟨_, _, rfl, h⟩

/-- A node that shows a record is a record. -/
theorem Node.Shows.of_record {depth : Nat} {node : Node} {ms : List (String × Value)}
    (h : node.Shows depth (.record ms)) :
    ∃ start entries, node = .record start depth entries ∧ entries.Shows (depth + 1) ms := by
  cases h with
  | record h => exact ⟨_, _, rfl, h⟩

mutual

/-- The document of a node that shows a value is that value. -/
theorem Node.Shows.value? {depth : Nat} {node : Node} {v : Value} :
    node.Shows depth v → node.value? = some v
  | .null | .boolean | .number | .text => rfl
  | .list h => by rw [Node.value?, h.values?]; rfl
  | .record h => by rw [Node.value?, h.members?]; rfl

/-- The items of a list that shows some items are those. -/
theorem Items.Shows.values? {depth : Nat} {items : Items} {vs : List Value} :
    items.Shows depth vs → items.values? = some vs
  | .close => rfl
  | .more h t => by rw [Items.values?, h.value?, t.values?]; rfl

/-- The members of a record that shows some members are those. -/
theorem Entries.Shows.members? {depth : Nat} {entries : Entries} {ms : List (String × Value)} :
    entries.Shows depth ms → entries.members? = some ms
  | .close => rfl
  | .more h t => by rw [Entries.members?, h.value?, t.members?]; rfl

end

mutual

/-- Who skips over a node that shows a value meets no fault. -/
theorem Node.Shows.skip {depth : Nat} {node : Node} {v : Value} :
    node.Shows depth v → node.skip = .ok ()
  | .null | .boolean | .number | .text => rfl
  | .list h => h.skip
  | .record h => h.skip

theorem Items.Shows.skip {depth : Nat} {items : Items} {vs : List Value} :
    items.Shows depth vs → items.skip = .ok ()
  | .close => rfl
  | .more h t => by rw [Items.skip, h.skip, t.skip]; rfl

theorem Entries.Shows.skip {depth : Nat} {entries : Entries} {ms : List (String × Value)} :
    entries.Shows depth ms → entries.skip = .ok ()
  | .close => rfl
  | .more h t => by rw [Entries.skip, h.skip, t.skip]; rfl

end

/-! ## Depth -/

mutual

/-- Whether no list or record in a value lies too deep when the value stands at a depth. -/
def Value.shallow (depth : Nat) : Value → Bool
  | .null | .boolean _ | .number _ | .text _ => true
  | .list items => decide (depth < depthLimit) && shallowItems (depth + 1) items
  | .record members => decide (depth < depthLimit) && shallowMembers (depth + 1) members
termination_by structural value => value

/-- `Value.shallow` of all items. -/
def shallowItems (depth : Nat) : List Value → Bool
  | [] => true
  | item :: items => item.shallow depth && shallowItems depth items
termination_by structural items => items

/-- `Value.shallow` of all members. -/
def shallowMembers (depth : Nat) : List (String × Value) → Bool
  | [] => true
  | (_, value) :: members => value.shallow depth && shallowMembers depth members
termination_by structural members => members

end

/-- Two checks, one after the other, find no fault if neither does. -/
theorem bind_ok_iff {first second : Except Fault Unit} :
    (do first; second) = .ok () ↔ first = .ok () ∧ second = .ok () := by
  cases first with
  | ok u => exact ⟨fun h => ⟨rfl, h⟩, fun h => h.2⟩
  | error f => exact ⟨fun h => (nomatch h), fun h => (nomatch h.1)⟩

/-- A list or record is not refused for its depth up to the limit. -/
theorem checkDepth_ok_iff {start : Place} {depth : Nat} :
    checkDepth start depth = .ok () ↔ depth < depthLimit := by
  unfold checkDepth
  split
  · next h => exact ⟨fun _ => h, fun _ => rfl⟩
  · next h => exact ⟨fun refused => (nomatch refused), fun lower => absurd lower h⟩

mutual

/-- Who takes any value meets no fault in a node that shows a value unless something lies too
deep. -/
theorem Node.Shows.sound_iff {depth : Nat} {node : Node} {v : Value} :
    node.Shows depth v → (node.sound = .ok () ↔ v.shallow depth = true)
  | .null | .boolean | .number | .text => ⟨fun _ => rfl, fun _ => rfl⟩
  | .list h => by
    rw [Node.sound, bind_ok_iff, checkDepth_ok_iff, h.sound_iff, Value.shallow, Bool.and_eq_true,
      decide_eq_true_eq]
  | .record h => by
    rw [Node.sound, bind_ok_iff, checkDepth_ok_iff, h.sound_iff, Value.shallow, Bool.and_eq_true,
      decide_eq_true_eq]

theorem Items.Shows.sound_iff {depth : Nat} {items : Items} {vs : List Value} :
    items.Shows depth vs → (items.sound = .ok () ↔ shallowItems depth vs = true)
  | .close => ⟨fun _ => rfl, fun _ => rfl⟩
  | .more h t => by
    rw [Items.sound, bind_ok_iff, h.sound_iff, t.sound_iff, shallowItems, Bool.and_eq_true]

theorem Entries.Shows.sound_iff {depth : Nat} {entries : Entries} {ms : List (String × Value)} :
    entries.Shows depth ms → (entries.sound = .ok () ↔ shallowMembers depth ms = true)
  | .close => ⟨fun _ => rfl, fun _ => rfl⟩
  | .more h t => by
    rw [Entries.sound, bind_ok_iff, h.sound_iff, t.sound_iff, shallowMembers, Bool.and_eq_true]

end

end HandlerWiring.Json
