/-!
# Events

What a pass reports while it runs. An event has a level, the topic under which a log filter finds
it, a message and named fields. `Logged α` is a result together with the events on the way to it;
as a monad it keeps the events in the order in which they were reported.
-/

namespace HandlerWiring

/-- How important an event is, from the least on. -/
inductive Level where
  | trace
  | debug
  | info
  | warn
deriving DecidableEq, Repr

namespace Level

/-- The name of a level in log lines. -/
def text : Level → String
  | .trace => "TRACE"
  | .debug => "DEBUG"
  | .info => "INFO"
  | .warn => "WARN"

/-- The rank of a level. -/
def rank : Level → Nat
  | .trace => 1
  | .debug => 2
  | .info => 3
  | .warn => 4

end Level

/-- The value of a field of an event. -/
inductive Datum where
  /-- A text that log lines quote. -/
  | quoted (s : String)
  /-- A text that stands in log lines as it is. -/
  | shown (s : String)
  | count (n : Nat)
  | flag (b : Bool)
deriving DecidableEq, Repr

/-- Something reported on the way. -/
structure Event where
  level : Level
  topic : String
  message : String
  fields : List (String × Datum)
deriving DecidableEq, Repr

/-- A result and the events reported on the way to it. -/
structure Logged (α : Type) where
  value : α
  events : List Event

namespace Logged

/-- Report one event. -/
def report (e : Event) : Logged Unit := ⟨(), [e]⟩

instance : Monad Logged where
  pure a := ⟨a, []⟩
  bind x f := ⟨(f x.value).value, x.events ++ (f x.value).events⟩

@[simp] theorem value_pure (a : α) : (pure a : Logged α).value = a := rfl

@[simp] theorem events_pure (a : α) : (pure a : Logged α).events = [] := rfl

@[simp] theorem value_bind (x : Logged α) (f : α → Logged β) :
    (x >>= f).value = (f x.value).value := rfl

@[simp] theorem events_bind (x : Logged α) (f : α → Logged β) :
    (x >>= f).events = x.events ++ (f x.value).events := rfl

@[simp] theorem events_report (e : Event) : (report e).events = [e] := rfl

end Logged

end HandlerWiring
