import HandlerWiring.Json.Schema
import HandlerWiring.Json.Node

/-!
# Reading values of a schema

The reader walks a document in the order of its text and reports the first fault it meets. A
record may also be given as the list of its field values. Each key of a record is looked at before
its value: an unknown one is refused in a closed record and skipped in an open one, a repeated one
is refused. A fault that has no place gets one in the nearest enclosing list or record: where the
reader rests after giving up there.

A tagged union is read in two passes. The first finds the tag and takes every other member as any
value. The second reads the fields of the case from what was set aside; its faults have lost their
places, and a list that is too long is refused by its length instead of by what follows.
-/

namespace HandlerWiring.Json

/-- Give the faults of a result a place. -/
def placedAt (p : Place) : Except Fault α → Except Fault α
  | .ok x => .ok x
  | .error f => .error (f.placed p)

/-- Take the places from the faults of a result. -/
def withoutPlace : Except Fault α → Except Fault α
  | .ok x => .ok x
  | .error f => .error (.unplaced f.cause)

/-- All items from some point on, each read in the same way. -/
def Items.readAll (read : Node → Except Fault α) : Items → Except Fault (List α)
  | .close _ => .ok []
  | .broken _ whenRead _ _ => .error whenRead
  | .more _ _ item rest => do
    let x ← placedAt rest.resting (read item)
    let xs ← rest.readAll read
    return x :: xs

/-- The number of items from some point on. -/
def Items.count : Items → Nat
  | .close _ | .broken .. => 0
  | .more _ _ _ rest => rest.count + 1

/-- A count of elements. -/
def elements (n : Nat) : String :=
  toString n ++ (if n = 1 then " element" else " elements")

/-- Check that a list ends after `taken` items. -/
def Items.checkEnd (buffered : Bool) (taken : Nat) : Items → Except Fault Unit
  | .close _ => .ok ()
  | .broken _ _ whenEnded _ => .error whenEnded
  | .more _ whenEnded _ rest =>
    if buffered then
      .error (.unplaced (.wrongLength (taken + rest.count + 1) (elements taken ++ " in sequence")))
    else .error whenEnded

/-- The entries of a dictionary, in the order of the text. -/
def Entries.readPairs (read : Node → Except Fault String) :
    Entries → Except Fault (List (String × String))
  | .close _ => .ok []
  | .broken _ whenRead _ _ _ => .error whenRead
  | .more _ _ (.error f) _ _ _ _ => .error f
  | .more _ _ (.ok key) _ _ value rest => do
    let x ← placedAt rest.resting (read value)
    let xs ← rest.readPairs read
    return (key, x) :: xs

/-- What becomes of a member of a record. -/
inductive Put (σ : Type) where
  | unknown
  | duplicate
  | value (result : Except Fault σ)

/-- Put the members of a record, one after the other, into a state. The place is behind the
closing brace. -/
def Entries.readInto (closed : Bool) (known : List String) (put : String → Node → σ → Put σ) :
    Entries → σ → Except Fault (σ × Place)
  | .close stop, s => .ok (s, stop)
  | .broken _ whenRead _ _ _, _ => .error whenRead
  | .more _ _ (.error f) _ _ _ _, _ => .error f
  | .more _ _ (.ok key) _ keyResting value rest, s =>
    match put key value s with
    | .unknown =>
      if closed then .error (.atPlace (.unknownField key known) keyResting)
      else do value.skip; rest.readInto closed known put s
    | .duplicate => .error (.atPlace (.duplicateField key) keyResting)
    | .value result => do
      let s ← placedAt rest.resting result
      rest.readInto closed known put s

/-- Find the tag of a record, taking every other member as any value. -/
def Entries.findTag (tag : String) (read : Node → Except Fault String) :
    Entries → Option String → Except Fault (Option String × Place)
  | .close stop, found => .ok (found, stop)
  | .broken _ whenRead _ _ _, _ => .error whenRead
  | .more _ _ (.error f) _ _ _ _, _ => .error f
  | .more _ _ (.ok key) _ keyResting value rest, found =>
    if key = tag then
      match found with
      | some _ => .error (.atPlace (.duplicateField tag) keyResting)
      | none => do
        let name ← read value
        rest.findTag tag read (some name)
    else do
      value.sound
      rest.findTag tag read found

/-- The position of a name among the choices. -/
def chooseName (choices : List String) (name : String) (stop : Place) :
    Except Fault (Fin choices.length) :=
  match choices.findFinIdx? (· == name) with
  | some i => .ok i
  | none => .error (.atPlace (.unknownName name choices) stop)

/-- Nothing but `null`. -/
def Node.readUnit : Node → Except Fault Unit
  | .null .. => .ok ()
  | node => .error (node.wrongKind "unit")

/-- One of several names: a text, or a record with the name as its only key and `null` there. -/
def Node.readName (choices : List String) : Node → Except Fault (Fin choices.length)
  | .text _ stop (.ok name) => chooseName choices name stop
  | .text _ _ (.error f) => .error f
  | .record start depth entries => do
    checkDepth start depth
    match entries with
    | .close stop => .error (.atPlace .noValue stop)
    | .broken _ _ whenNamed _ _ => .error whenNamed
    | .more _ _ (.error f) _ _ _ _ => .error f
    | .more _ _ (.ok name) keyStop _ value rest =>
      let i ← chooseName choices name keyStop
      value.readUnit
      match rest with
      | .close _ => .ok i
      | .broken _ _ _ whenEnded _ => .error whenEnded
      | .more _ whenEnded _ _ _ _ _ => .error whenEnded
  | node => .error node.unnamed

/-- The tag of a union: a text that is one of the names. -/
def Node.readTag (names : List String) : Node → Except Fault String
  | .text _ stop (.ok name) =>
    if names.contains name then .ok name else .error (.atPlace (.unknownName name names) stop)
  | node => .error (node.wrongKind "variant identifier")

/-- A text. -/
def Node.readText : Node → Except Fault String
  | .text _ _ value => value
  | node => .error (node.wrongKind "a string")

/-- A flag. -/
def Node.readFlag : Node → Except Fault Bool
  | .boolean _ _ b => .ok b
  | node => .error (node.wrongKind "a boolean")

/-- An unsigned number of 32 bits. -/
def Node.readWord : Node → Except Fault UInt32
  | .number _ stop (.ok (.integer n)) =>
    if 0 ≤ n ∧ n < 2 ^ (32 : Nat) then .ok (UInt32.ofNat n.toNat)
    else .error (.atPlace (.wrongValue n "u32") stop)
  | node => .error (node.wrongKind "u32")

/-- The fields read so far, each with its value if it was met. -/
def Fields.Slots : Fields → Type
  | .none => Unit
  | .field _ _ schema rest => Option schema.El × rest.Slots

/-- No field met yet. -/
def Fields.empty : (fields : Fields) → fields.Slots
  | .none => ()
  | .field _ _ _ rest => (Option.none, rest.empty)

/-- The number of fields. -/
def Fields.count : Fields → Nat
  | .none => 0
  | .field _ _ _ rest => rest.count + 1

/-- The values of all fields once no more are to come. The first field that was not met and has to
be there is the fault. -/
def Fields.finish : (fields : Fields) → fields.Slots → Except Fault fields.El
  | .none, _ => .ok ()
  | .field _ _ _ rest, (some x, slots) => do
    let row ← rest.finish slots
    return (x, row)
  | .field name presence schema rest, (Option.none, slots) =>
    match (if presence.recordMayLack then schema.default? else Option.none) with
    | some x => do
      let row ← rest.finish slots
      return (x, row)
    | Option.none => .error (.unplaced (.missingField name))

mutual

/-- The value that a node holds. In a `buffered` part of the document the faults will lose their
places, and lists are checked by their length. -/
def Schema.read (buffered : Bool) : (schema : Schema) → Node → Except Fault schema.El
  | .text, node => node.readText
  | .flag, node => node.readFlag
  | .word, node => node.readWord
  | .name choices, node => node.readName choices
  | .list item, node =>
    match node with
    | .list start depth items => do
      checkDepth start depth
      items.readAll (item.read buffered)
    | node => .error (node.wrongKind "a sequence")
  | .optional item, node =>
    match node with
    | .null .. => .ok Option.none
    | node => do return some (← item.read buffered node)
  | .dictionary, node =>
    match node with
    | .record start depth entries => do
      checkDepth start depth
      return Dictionary.ofList (← entries.readPairs Node.readText)
    | node => .error (node.wrongKind "a map")
  | .record title closed fields, node =>
    match node with
    | .record start depth entries => do
      checkDepth start depth
      let (slots, stop) ← entries.readInto closed fields.names (fields.put buffered) fields.empty
      placedAt stop (fields.finish slots)
    | .list start depth items => do
      checkDepth start depth
      let (row, rest) ← fields.readList buffered ("struct " ++ title) fields.count items
      rest.checkEnd buffered fields.count
      return row
    | node => .error (node.wrongKind ("struct " ++ title))
  | .tagged title tag cases, node =>
    match node with
    | .record start depth entries => do
      checkDepth start depth
      let (found, stop) ← entries.findTag tag (Node.readTag cases.names) Option.none
      match found with
      | Option.none => .error (.atPlace (.missingField tag) stop)
      | some name => withoutPlace (cases.readEntries name entries)
    | .list start depth items => do
      checkDepth start depth
      match items with
      | .close stop => .error (.atPlace (.missingField tag) stop)
      | .broken _ whenRead _ _ => .error whenRead
      | .more _ _ item rest =>
        let name ← item.readTag cases.names
        rest.sound
        withoutPlace (cases.readItems name rest)
    | node => .error (node.wrongKind ("internally tagged enum " ++ title))
termination_by structural schema => schema

/-- Put a member into the slot of its field. -/
def Fields.put (buffered : Bool) : (fields : Fields) → String → Node → fields.Slots →
    Put fields.Slots
  | .none, _, _, _ => .unknown
  | .field name _ schema rest, key, node, (slot, slots) =>
    if key = name then
      match slot with
      | some _ => .duplicate
      | Option.none =>
        .value (match schema.read buffered node with
          | .ok x => .ok (some x, slots)
          | .error f => .error f)
    else match rest.put buffered key node slots with
      | .unknown => .unknown
      | .duplicate => .duplicate
      | .value (.ok slots) => .value (.ok (slot, slots))
      | .value (.error f) => .value (.error f)
termination_by structural fields => fields

/-- The values of the fields as the first items of a list, and the items behind them. `whole` is
how the record is called and `total` how many fields it has. -/
def Fields.readList (buffered : Bool) (whole : String) (total : Nat) :
    (fields : Fields) → Items → Except Fault (fields.El × Items)
  | .none, items => .ok ((), items)
  | .field _ presence schema rest, items =>
    match items with
    | .close stop =>
      match (if presence.listMayLack then schema.default? else Option.none) with
      | some x => do
        let (row, last) ← rest.readList buffered whole total items
        return ((x, row), last)
      | Option.none =>
        .error (.atPlace
          (.wrongLength (total - rest.count - 1) (whole ++ " with " ++ elements total)) stop)
    | .broken _ whenRead _ _ => .error whenRead
    | .more _ _ item behind => do
      let x ← placedAt behind.resting (schema.read buffered item)
      let (row, last) ← rest.readList buffered whole total behind
      return ((x, row), last)
termination_by structural fields => fields

/-- The case with a name, its fields from a record that was set aside. -/
def Cases.readEntries (name : String) (entries : Entries) :
    (cases : Cases) → Except Fault cases.El
  | .none => .error (.unplaced (.unknownName name []))
  | .case n fields rest =>
    if n = name then do
      let (slots, _) ← entries.readInto false fields.names (fields.put true) fields.empty
      return .inl (← fields.finish slots)
    else do return .inr (← rest.readEntries name entries)
termination_by structural cases => cases

/-- The case with a name, its fields from a list that was set aside. -/
def Cases.readItems (name : String) (items : Items) : (cases : Cases) → Except Fault cases.El
  | .none => .error (.unplaced (.unknownName name []))
  | .case n fields rest =>
    if n = name then do
      let (row, last) ← fields.readList true ("struct variant " ++ n) fields.count items
      last.checkEnd true fields.count
      return .inl row
    else do return .inr (← rest.readItems name items)
termination_by structural cases => cases

end

end HandlerWiring.Json
