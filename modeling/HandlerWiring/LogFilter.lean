import HandlerWiring.Decimal.Format
import HandlerWiring.Event
import HandlerWiring.Text.Alphabetic
import HandlerWiring.Text.Basic
import HandlerWiring.Text.Quoted

/-!
# Log filters

Which events become lines of the log. A filter is a list of directives with commas between them. A
directive names a verbosity, the start of a topic, or both; of the directives whose topic an event
has, the one with the longest topic decides, and of equal ones the last. Without directives a
verbosity is the default for every topic.
-/

namespace HandlerWiring

/-- How much is shown: events of a level or less. -/
inductive Verbosity where
  | off
  | error
  | warn
  | info
  | debug
  | trace
deriving DecidableEq, Repr

namespace Verbosity

/-- The verbosities, from the least on. -/
def all : List Verbosity := [.off, .error, .warn, .info, .debug, .trace]

/-- The name of a verbosity. -/
def text : Verbosity → String
  | .off => "off"
  | .error => "error"
  | .warn => "warn"
  | .info => "info"
  | .debug => "debug"
  | .trace => "trace"

/-- The verbosity that no directive asks for. -/
def standard (verbose : Bool) : Verbosity := if verbose then .debug else .warn

/-- Whether events of a level are shown. -/
def shows : Verbosity → Level → Bool
  | .off, _ => false
  | .error, _ => false
  | .warn, l => l == .warn
  | .info, l => l == .warn || l == .info
  | .debug, l => l != .trace
  | .trace, _ => true

/-- The number that a text of decimal digits stands for; a plus may stand in front. -/
def number? (text : List Char) : Option Nat :=
  let digits := match text with
    | '+' :: digits => digits
    | digits => digits
  if !digits.isEmpty && digits.all Char.isDigit then
    some (Decimal.valueOf digits)
  else none

/-- The verbosity that a text names, by its place from zero on or by its name in any case. -/
def parse? (text : List Char) : Option Verbosity :=
  match number? text with
  | some n => all[n]?
  | none => all.find? fun v => Text.sameIgnoringCase v.text (String.ofList text)

end Verbosity

/-- One directive of a filter. -/
structure Directive where
  /-- What a topic has to start with. -/
  topic : Option (List Char)
  verbosity : Verbosity
  /-- Whether it asks for what happens inside a span. No event of this library does. -/
  aboutSpans : Bool
deriving DecidableEq, Repr

/-- Why a directive is passed over. -/
inductive DirectiveFault where
  | malformed
  | unknownVerbosity
deriving DecidableEq, Repr

/-- A fault in words. -/
def DirectiveFault.message : DirectiveFault → String
  | .malformed => "invalid filter directive"
  | .unknownVerbosity =>
    "error parsing level filter: expected one of \"off\", \"error\", \"warn\", \"info\", " ++
      "\"debug\", \"trace\", or a number 0-5"

namespace Directive

/-- Whether a character may start a topic. -/
def startsTopic (c : Char) : Bool :=
  c = '-' || c = ':' || c = '_' || Text.isAlphanumeric c

/-- The verbosity behind an equals sign; everything if nothing stands there. -/
def verbosityOf (text : List Char) : Except DirectiveFault Verbosity :=
  if text.isEmpty then .ok .trace
  else match Verbosity.parse? text with
    | some v => .ok v
    | none => .error .unknownVerbosity

/-- The directive about spans, from what stands behind the opening bracket. -/
def parseSpan (text : List Char) : Except DirectiveFault Directive :=
  match text.dropWhile (· ≠ ']') with
  | [']'] => .ok ⟨none, .trace, true⟩
  | ']' :: '=' :: level => do
    let v ← verbosityOf level
    return ⟨none, v, true⟩
  | _ => .error .malformed

/-- The directive in a text. Where its parts end is counted without the blanks around it. -/
def parse (text : List Char) : Except DirectiveFault Directive :=
  match Text.trim text with
  | [] => .error .malformed
  | c :: cs =>
    if c = '[' then parseSpan cs
    else if !startsTopic c then .error .malformed
    else
      let here := ((c :: cs).takeWhile fun c => c ≠ '=' && c ≠ '[').length
      match (c :: cs).drop here with
      | [] =>
        match Verbosity.parse? text with
        | some v => .ok ⟨none, v, false⟩
        | none => .ok ⟨some text, .trace, false⟩
      | mark :: rest =>
        if mark = '=' then do
          let v ← verbosityOf (text.drop (here + 1))
          return ⟨some (text.take here), v, false⟩
        else parseSpan rest

/-- Whether a directive is about the events of a topic. -/
def covers (d : Directive) (topic : List Char) : Bool :=
  !d.aboutSpans && (d.topic.getD []).isPrefixOf topic

/-- How exactly a directive names a topic. -/
def weight (d : Directive) : Nat :=
  match d.topic with
  | none => 0
  | some t => t.length + 1

/-- The directive that decides among those that cover a topic. -/
def deciding (topic : List Char) : List Directive → Option Directive
  | [] => none
  | d :: rest =>
    match deciding topic rest with
    | some later => if d.covers topic && later.weight < d.weight then some d else some later
    | none => if d.covers topic then some d else none

end Directive

/-- A filter: the directives, or the verbosity that holds without any. -/
structure LogFilter where
  directives : List Directive
  standard : Verbosity
deriving DecidableEq, Repr

namespace LogFilter

/-- Whether an event is shown. -/
def shows (f : LogFilter) (e : Event) : Bool :=
  if f.directives.isEmpty then f.standard.shows e.level
  else match Directive.deciding e.topic.toList f.directives with
    | some d => d.verbosity.shows e.level
    | none => false

/-- The directives in a text, each with its own text. Empty pieces do not count. -/
def parsed (text : String) : List (List Char × Except DirectiveFault Directive) :=
  ((Text.piecesAt ',' text.toList).filter (!·.isEmpty)).map fun piece => (piece, Directive.parse piece)

/-- The filter of a text. -/
def ofText (standard : Verbosity) (text : String) : LogFilter :=
  { directives := (parsed text).filterMap fun (_, d) => d.toOption
    standard }

/-- The complaints about directives that are passed over. -/
def complaints (text : String) : List String :=
  (parsed text).filterMap fun (piece, d) =>
    match d with
    | .ok _ => none
    | .error fault =>
      some ("ignoring `" ++ String.ofList piece ++ "`: " ++ fault.message)

end LogFilter

/-- The value of a field as it stands in the log. -/
def Datum.text : Datum → String
  | .quoted s => Text.quoted s
  | .shown s => s
  | .count n => toString n
  | .flag b => if b then "true" else "false"

/-- An event as a line of the log: its level, its message and its fields. -/
def Event.line (e : Event) : String :=
  e.level.text ++ " " ++ e.message ++
    String.join (e.fields.map fun (name, value) => " " ++ name ++ "=" ++ value.text)

/-- The line of an event, if it is shown. -/
def LogFilter.line? (f : LogFilter) (e : Event) : Option String :=
  if f.shows e then some e.line else none

end HandlerWiring
