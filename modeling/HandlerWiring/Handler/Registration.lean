import HandlerWiring.Declaration.Candidate
import HandlerWiring.Event
import HandlerWiring.Handler.Shape

/-!
# Registrations

A registration binds a handler interface to the type that implements it. The scan finds one for
each recognised interface of each eligible type, in declaration order; a type that implements
several handlers is registered once for each.
-/

namespace HandlerWiring

open Json

/-- A handler interface bound to its implementation. -/
structure Registration where
  shape : Shape
  /-- The interface as declared on the implementation. -/
  interface : Interface
  /-- The qualified name of the implementing type. -/
  implementation : String
deriving DecidableEq, Repr

namespace Registration

/-- The registered type as written in generated code. -/
def serviceType (r : Registration) : String := r.interface.text

/-- The topic of the events of a scan. -/
def topic : String := "cqrsgen_decl::scan"

/-- A type was passed over. -/
def skipped (c : Candidate) : Event :=
  ⟨.trace, topic, "skipping ineligible type", [("ty", .shown c.name)]⟩

/-- A handler was found. -/
def found (c : Candidate) (i : Interface) : Event :=
  ⟨.debug, topic, "found handler",
    [("implementation", .shown c.name), ("interface", .shown i.text)]⟩

/-- The registrations of a type for some of its interfaces. -/
def ofInterfaces (c : Candidate) : List Interface → Logged (List Registration)
  | [] => return []
  | i :: rest =>
    match Shape.of? i with
    | none => ofInterfaces c rest
    | some shape => do
      Logged.report (found c i)
      let others ← ofInterfaces c rest
      return ⟨shape, i, c.name⟩ :: others

/-- The registrations of a type. -/
def ofCandidate (c : Candidate) : Logged (List Registration) :=
  if c.isEligible then ofInterfaces c c.interfaces
  else do
    Logged.report (skipped c)
    return []

/-- The registrations of a list of types. -/
def scan : List Candidate → Logged (List Registration)
  | [] => return []
  | c :: rest => do
    let here ← ofCandidate c
    let others ← scan rest
    return here ++ others

/-- How a registration stands in documents. -/
def form : Form Registration where
  schema := .record "InjectionStub" false <|
    .field "shape" .required Shape.form.schema <|
    .field "interface" .required Interface.form.schema <|
    .field "implementation" .required .text .none
  toRow r :=
    (Shape.form.toRow r.shape, Interface.form.toRow r.interface, r.implementation, ())
  ofRow := fun (shape, interface, implementation, ()) =>
    ⟨Shape.form.ofRow shape, Interface.form.ofRow interface, implementation⟩
  ofRow_toRow r := by simp

end Registration

end HandlerWiring
