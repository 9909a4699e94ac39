import HandlerWiring.Declaration.Snapshot
import HandlerWiring.ExtensionPoint.Report
import HandlerWiring.Unit.Generated

/-!
# Generation passes

A pass scans the types of a snapshot, resolves the settings, validates the marked methods and emits
the unit. If the scan finds nothing, the methods are not looked at.
-/

namespace HandlerWiring

/-- Everything a pass produces. -/
structure Outcome where
  registrations : List Registration
  names : Names
  /-- Empty if there is nothing to register. -/
  validation : Report
  unit : Option GeneratedUnit
deriving DecidableEq, Repr

namespace Outcome

/-- The rejections of the pass. -/
def diagnostics (o : Outcome) : List Diagnostic := o.validation.diagnostics

end Outcome

namespace Snapshot

/-- The digest of the snapshot's document without gaps. -/
def hash (s : Snapshot) : String := Digest.ofText (form.compact s)

/-- The topic of the events at the end of a pass. -/
def passTopic : String := "cqrsgen_csharp::pass"

/-- There was nothing to register. -/
def nothingFound : Event :=
  ⟨.info, passTopic, "no handler implementations found; nothing to generate", []⟩

/-- The pass is over. -/
def passComplete (o : Outcome) : Event :=
  ⟨.info, passTopic, "generation pass complete",
    [("stubs", .count o.registrations.length),
      ("extension_points", .count o.validation.points.length),
      ("diagnostics", .count o.diagnostics.length),
      ("unit", .quoted ((o.unit.map (·.hintName)).getD "-"))]⟩

/-- Run a pass with the settings from two sources. -/
def generate (s : Snapshot) (sources : Sources) : Logged Outcome := do
  let registrations ← Registration.scan s.types
  let names ← Names.resolve sources
  if registrations.isEmpty then
    Logged.report nothingFound
    return { registrations, names, validation := .empty, unit := none }
  else
    let strictness ← Strictness.resolve sources
    let validation ← Report.ofMethods strictness s.methods
    let outcome : Outcome :=
      { registrations, names, validation
        unit := GeneratedUnit.emit? registrations validation.points names }
    Logged.report (passComplete outcome)
    return outcome

/-- The options of a snapshot as both sources. -/
def ownSources (s : Snapshot) : Sources := ⟨s.options, s.options⟩

/-- Run a pass with the settings from the snapshot's own options. -/
def generateOwn (s : Snapshot) : Logged Outcome := s.generate s.ownSources

end Snapshot

end HandlerWiring
