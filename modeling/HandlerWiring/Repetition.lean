import HandlerWiring.Digest.Blake3
import HandlerWiring.Text.Basic

/-!
# Repeated runs

A pass has to give the same text for the same input. To check this it is run several times and
each output is compared with the first. A deviation is reported as the first line that differs.
The runs are requests of the check, so that it can be told how many were made.
-/

namespace HandlerWiring

/-- The first line that differs between two outputs. -/
structure Difference where
  /-- The number of the line, from one on. -/
  line : Nat
  /-- The line of the first run, none past its end. -/
  expected : Option String
  /-- The line of the differing run, none past its end. -/
  actual : Option String
  /-- Which run differs, from zero on. -/
  run : Nat
deriving DecidableEq, Repr

namespace Difference

/-- The first difference of two lists of lines, the first line having a number. -/
def ofLines (run : Nat) : Nat → List (List Char) → List (List Char) → Option Difference
  | _, [], [] => none
  | line, [], a :: _ => some ⟨line, none, some (String.ofList a), run⟩
  | line, e :: _, [] => some ⟨line, some (String.ofList e), none, run⟩
  | line, e :: es, a :: as =>
    if e = a then ofLines run (line + 1) es as
    else some ⟨line, some (String.ofList e), some (String.ofList a), run⟩

/-- The first line in which two outputs differ. -/
def first? (expected actual : String) (run : Nat) : Option Difference :=
  if expected = actual then none
  else ofLines run 1 (Text.lines expected.toList) (Text.lines actual.toList)

/-- A line, or that there is none. -/
def shownLine (line : Option String) : String := line.getD "<end of output>"

/-- A difference as three lines. -/
def text (d : Difference) : String :=
  "Difference at line " ++ toString d.line ++ " (run " ++ toString d.run ++ "):\n" ++
    "  expected: " ++ shownLine d.expected ++ "\n" ++
    "  actual:   " ++ shownLine d.actual

end Difference

/-! ## Trials -/

/-- A procedure that runs a pass as often as it wants to and ends in a result. -/
inductive Trial (α : Type) where
  | done (result : α)
  /-- Run the pass once more and go on with its output. -/
  | run (next : String → Trial α)

namespace Trial

/-- Conduct a trial after some runs were made, the outputs being numbered from zero on. Also given
is how many runs were made in the end. -/
def conductFrom (output : Nat → String) : Nat → Trial α → α × Nat
  | made, .done a => (a, made)
  | made, .run next => (next (output made)).conductFrom output (made + 1)

/-- Change the result of a trial. -/
def map (f : α → β) : Trial α → Trial β
  | .done a => .done (f a)
  | .run next => .run fun output => (next output).map f

/-- Conduct a trial from its first run on. -/
def conduct (output : Nat → String) (t : Trial α) : α × Nat := t.conductFrom output 0

end Trial

/-- The outcome of repeated runs. -/
structure Repetition where
  /-- Whether no run deviates from the first. -/
  isDeterministic : Bool
  /-- How many runs were asked for. -/
  runs : Nat
  /-- The size of the first output in bytes. -/
  size : Nat
  /-- The digest of the first output. -/
  hash : String
  /-- The difference of the first run that deviates. -/
  difference : Option Difference
deriving DecidableEq, Repr

namespace Repetition

/-- The outcome of runs that all agree. -/
def agreeing (reference : String) (runs : Nat) : Repetition :=
  { isDeterministic := true
    runs
    size := reference.utf8ByteSize
    hash := Digest.ofText reference
    difference := none }

/-- Compare `count` more runs with a first output, numbered from `run` on. If one deviates it decides
the outcome, and no further run is made; else the outcome is agreement. -/
def compareRuns (reference : String) (agreement : Repetition) : (run count : Nat) → Trial Repetition
  | _, 0 => .done agreement
  | run, count + 1 => .run fun output =>
    match Difference.first? reference output run with
    | some d => .done { agreement with isDeterministic := false, difference := some d }
    | none => compareRuns reference agreement (run + 1) count

/-- Why too few runs are refused. -/
def tooFewRuns : String := "Must run at least 2 times to verify determinism"

/-- Run as often as asked, or until a run deviates. -/
def trial (runs : Nat) : Trial (Except String Repetition) :=
  if runs < 2 then .done (.error tooFewRuns)
  else .run fun reference =>
    (compareRuns reference (agreeing reference runs) 1 (runs - 1)).map .ok

/-- Run as often as asked, or until a run deviates, with these outputs. Also given is how many runs
were made. -/
def verify (output : Nat → String) (runs : Nat) : Except String (Repetition × Nat) :=
  let (outcome, made) := (trial runs).conduct output
  outcome.map (·, made)

/-- The complaint about an outcome that is not deterministic. -/
def complaint? (r : Repetition) : Option String :=
  r.difference.map fun d =>
    "Non-deterministic output detected!\n" ++
      "Runs: " ++ toString r.runs ++ "\n" ++
      "Output size: " ++ toString r.size ++ " bytes\n" ++
      "Hash: " ++ r.hash ++ "\n" ++ d.text

end Repetition

end HandlerWiring
