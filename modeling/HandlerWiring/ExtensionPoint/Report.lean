import HandlerWiring.Event
import HandlerWiring.ExtensionPoint.Rule

/-!
# Validation reports

The outcome of the rules for all marked methods of a list: the accepted extension points and the
diagnostics of the rejected ones, each in declaration order. Methods without the marker are not
looked at.
-/

namespace HandlerWiring

/-- The accepted extension points and the rejections of one run. -/
structure Report where
  points : List ExtensionPoint
  diagnostics : List Diagnostic
deriving DecidableEq, Repr

namespace Report

/-- The report about no method. -/
def empty : Report := ⟨[], []⟩

/-- Whether no marked method was rejected. -/
def isClean (r : Report) : Bool := r.diagnostics.isEmpty

/-- Whether some marked method was accepted. -/
def hasPoints (r : Report) : Bool := !r.points.isEmpty

/-- The topic of the events of a validation. -/
def topic : String := "cqrsgen_decl::validation"

/-- A method was accepted. -/
def accepted (p : ExtensionPoint) : Event :=
  ⟨.debug, topic, "accepted extension point", [("method", .shown p.qualifiedName)]⟩

/-- A method was rejected. -/
def rejected (d : Diagnostic) : Event :=
  ⟨.debug, topic, "rejected extension point",
    [("method", .shown d.method), ("code", .shown d.code.text)]⟩

/-- The report with one result put in front. -/
def cons (result : Except Diagnostic ExtensionPoint) (r : Report) : Report :=
  match result with
  | .ok p => { r with points := p :: r.points }
  | .error d => { r with diagnostics := d :: r.diagnostics }

/-- The event of one result. -/
def event : Except Diagnostic ExtensionPoint → Event
  | .ok p => accepted p
  | .error d => rejected d

/-- Validate the marked methods of a list. -/
def ofMethods (s : Strictness) : List Method → Logged Report
  | [] => return empty
  | m :: rest =>
    if m.isExtensionPoint then do
      let result := m.validate s
      Logged.report (event result)
      let others ← ofMethods s rest
      return others.cons result
    else ofMethods s rest

end Report

end HandlerWiring
