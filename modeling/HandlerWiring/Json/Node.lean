import HandlerWiring.Json.Fault
import HandlerWiring.Json.Value

/-!
# Documents as read

A *node* is a value together with the places of its text and with the faults that stand in it.
Which fault of a broken document is reported depends on who reads it: a reader who knows what to
expect reports the first thing, in the order of the text, that is not as expected, be it against
the grammar or against the expectation; and a reader who only skips over a part is less strict
than one who reads it. So the fault is not decided where the text is scanned. It is kept where it
stands, and the reader that walks there reports it.

`Node.value?` is the document of a node without any fault.
-/

namespace HandlerWiring.Json

mutual

/-- A value, or the point behind which there is none. -/
inductive Node where
  | null (start stop : Place)
  | boolean (start stop : Place) (value : Bool)
  | number (start stop : Place) (value : Except Fault Number)
  | text (start stop : Place) (value : Except Fault String)
  /-- A list inside `depth` other lists and records. -/
  | list (start : Place) (depth : Nat) (items : Items)
  /-- A record inside `depth` other lists and records. -/
  | record (start : Place) (depth : Nat) (entries : Entries)
  /-- No value can be read here. Who expects one of several names refuses all but a text at
  first sight. -/
  | broken (whenRead whenNamed whenSkipped : Fault)

/-- What stands in a list from some point on. -/
inductive Items where
  /-- The closing bracket; `stop` is behind it. -/
  | close (stop : Place)
  /-- Neither an item nor the closing bracket. A reader that has given up rests at `resting`. -/
  | broken (resting : Place) (whenRead whenEnded whenSkipped : Fault)
  /-- An item and what follows it. -/
  | more (resting : Place) (whenEnded : Fault) (item : Node) (rest : Items)

/-- What stands in a record from some point on. -/
inductive Entries where
  /-- The closing brace; `stop` is behind it. -/
  | close (stop : Place)
  /-- Neither an entry nor the closing brace. -/
  | broken (resting : Place) (whenRead whenNamed whenEnded whenSkipped : Fault)
  /-- A key, its value and what follows. The key ends at `keyStop`; a reader that gives up there
  rests at `keyResting`. -/
  | more (resting : Place) (whenEnded : Fault) (key : Except Fault String)
      (keyStop keyResting : Place) (value : Node) (rest : Entries)

end

/-- A whole text: the value in it, and the fault if more than gaps follow the value. -/
structure Document where
  root : Node
  excess : Option Fault

/-- Where a reader that has given up rests before the rest of a list. -/
def Items.resting : Items → Place
  | .close stop => stop
  | .broken resting .. => resting
  | .more resting .. => resting

/-- Where a reader that has given up rests before the rest of a record. -/
def Entries.resting : Entries → Place
  | .close stop => stop
  | .broken resting .. => resting
  | .more resting .. => resting

mutual

/-- The document of a node, none if a fault stands in it. -/
def Node.value? : Node → Option Value
  | .null .. => some .null
  | .boolean _ _ b => some (.boolean b)
  | .number _ _ (.ok n) => some (.number n)
  | .number _ _ (.error _) => none
  | .text _ _ (.ok s) => some (.text s)
  | .text _ _ (.error _) => none
  | .list _ _ items => items.values?.map .list
  | .record _ _ entries => entries.members?.map .record
  | .broken .. => none

/-- The items from some point on, none if a fault stands in them. -/
def Items.values? : Items → Option (List Value)
  | .close _ => some []
  | .broken .. => none
  | .more _ _ item rest => do return (← item.value?) :: (← rest.values?)

/-- The members from some point on, none if a fault stands in them. -/
def Entries.members? : Entries → Option (List (String × Value))
  | .close _ => some []
  | .broken .. => none
  | .more _ _ (.ok key) _ _ value rest => do return (key, ← value.value?) :: (← rest.members?)
  | .more _ _ (.error _) .. => none

end

/-- The place one byte behind the start of a value. -/
def onto (start : Place) : Place := ⟨start.line, start.column + 1⟩

/-- The fault of a node for a reader that expected something of another kind. A list or a record
is refused where it starts, anything else where it ends. -/
def Node.wrongKind (expected : String) : Node → Fault
  | .null _ stop => .atPlace (.wrongKind .null expected) stop
  | .boolean _ stop b => .atPlace (.wrongKind (.boolean b) expected) stop
  | .number _ stop (.ok (.integer n)) => .atPlace (.wrongKind (.integer n) expected) stop
  | .number _ stop (.ok (.real bits)) => .atPlace (.wrongKind (.real bits) expected) stop
  | .number _ _ (.error f) => f
  | .text _ stop (.ok s) => .atPlace (.wrongKind (.text s) expected) stop
  | .text _ _ (.error f) => f
  | .list start .. => .atPlace (.wrongKind .list expected) start
  | .record start .. => .atPlace (.wrongKind .record expected) start
  | .broken whenRead .. => whenRead

/-- The fault of a node for a reader that expected one of several names. -/
def Node.unnamed : Node → Fault
  | .null start _ | .boolean start _ _ | .number start _ _ | .text start _ _ | .list start _ _
  | .record start _ _ => .atPlace .noValue (onto start)
  | .broken _ whenNamed _ => whenNamed

/-- Lists and records are refused inside this many others. -/
def depthLimit : Nat := 127

/-- Refuse a list or record that lies too deep. -/
def checkDepth (start : Place) (depth : Nat) : Except Fault Unit :=
  if depth < depthLimit then .ok () else .error (.atPlace .tooDeep (onto start))

mutual

/-- The first fault of a node for a reader that takes any value. -/
def Node.sound : Node → Except Fault Unit
  | .null .. | .boolean .. => .ok ()
  | .number _ _ (.ok _) => .ok ()
  | .number _ _ (.error f) => .error f
  | .text _ _ (.ok _) => .ok ()
  | .text _ _ (.error f) => .error f
  | .list start depth items => do checkDepth start depth; items.sound
  | .record start depth entries => do checkDepth start depth; entries.sound
  | .broken whenRead .. => .error whenRead

/-- The first fault of the items from some point on. -/
def Items.sound : Items → Except Fault Unit
  | .close _ => .ok ()
  | .broken _ whenRead .. => .error whenRead
  | .more _ _ item rest => do item.sound; rest.sound

/-- The first fault of the entries from some point on. -/
def Entries.sound : Entries → Except Fault Unit
  | .close _ => .ok ()
  | .broken _ whenRead .. => .error whenRead
  | .more _ _ (.ok _) _ _ value rest => do value.sound; rest.sound
  | .more _ _ (.error f) .. => .error f

end

mutual

/-- The first fault of a node for a reader that skips over it. -/
def Node.skip : Node → Except Fault Unit
  | .null .. | .boolean .. | .number .. | .text .. => .ok ()
  | .list _ _ items => items.skip
  | .record _ _ entries => entries.skip
  | .broken _ _ whenSkipped => .error whenSkipped

/-- The first fault of the items from some point on for a reader that skips over them. -/
def Items.skip : Items → Except Fault Unit
  | .close _ => .ok ()
  | .broken _ _ _ whenSkipped => .error whenSkipped
  | .more _ _ item rest => do item.skip; rest.skip

/-- The first fault of the entries from some point on for a reader that skips over them. -/
def Entries.skip : Entries → Except Fault Unit
  | .close _ => .ok ()
  | .broken _ _ _ _ whenSkipped => .error whenSkipped
  | .more _ _ _ _ _ value rest => do value.skip; rest.skip

end

end HandlerWiring.Json
