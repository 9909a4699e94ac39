import HandlerWiring.Command.Run
import HandlerWiring.CommandLine.Argument

/-!
# Reading a command line

The words of a command line are read from left to right. A value may follow its argument as a word
of its own; it is then looked at only when the next argument begins or the line ends. An unknown
argument is reported before a value that waits.
-/

namespace HandlerWiring.CommandLine

/-- What is wrong with a command line. -/
inductive UsageFault where
  | unknownCommand (word : String)
  | unexpectedArgument (word : String)
  | missingValue (argument : Argument)
  | invalidValue (argument : Argument) (value : String) (reason : PropertyFault)
  | repeated (argument : Argument)
  | unexpectedValue (argument : Argument) (value : String)
  | missingArguments (arguments : List Argument)
  | missingCommand
deriving DecidableEq, Repr

/-- How the program is called. -/
def programName : String := "cqrsgen"

/-- A fault in words. -/
def UsageFault.message : UsageFault → String
  | .unknownCommand word => "unrecognized subcommand '" ++ word ++ "'"
  | .unexpectedArgument word => "unexpected argument '" ++ word ++ "' found"
  | .missingValue a => "a value is required for '" ++ a.label ++ "' but none was supplied"
  | .invalidValue a value reason =>
    "invalid value '" ++ value ++ "' for '" ++ a.label ++ "': " ++ reason.message
  | .repeated a => "the argument '" ++ a.label ++ "' cannot be used multiple times"
  | .unexpectedValue a value =>
    "unexpected value '" ++ value ++ "' for '" ++ a.label ++ "' found; no more were expected"
  | .missingArguments as =>
    "the following required arguments were not provided:" ++
      String.join (as.map fun a => "\n  " ++ a.label)
  | .missingCommand =>
    "'" ++ programName ++ "' requires a subcommand but one was not provided"

/-- What ends the reading before there is a command to run. -/
inductive Interruption where
  | fault (f : UsageFault)
  /-- The line asks for help. -/
  | help
  /-- The line asks for the version, of a command or of the program. -/
  | version (verb : Option Verb)
  /-- The line is empty. -/
  | nothing
deriving DecidableEq, Repr

/-- What a command line asks for. -/
structure Invocation where
  verbose : Bool
  command : Command
  output : Output
deriving DecidableEq, Repr

/-- What was read so far. -/
structure Progress where
  /-- The arguments that were given, with their values; a switch has an empty one. -/
  given : List (Argument × String)
  /-- The argument whose value is a word of its own, and that word if it was read. -/
  waiting : Option (Argument × Option String)
deriving DecidableEq, Repr

namespace Progress

/-- Where reading starts. -/
def start : Progress := ⟨[], none⟩

/-- Whether an argument was given. -/
def has (p : Progress) (a : Argument) : Bool := p.given.any (·.1 == a)

/-- The values given for an argument. -/
def values (p : Progress) (a : Argument) : List String :=
  (p.given.filter (·.1 == a)).map (·.2)

/-- Take an argument with its value. -/
def take (p : Progress) (a : Argument) (value : String) : Except UsageFault Progress :=
  if !a.repeats && p.has a then .error (.repeated a)
  else
    let taken : Progress := { p with given := p.given ++ [(a, value)] }
    if a = .property then
      match Property.parse value with
      | .ok _ => .ok taken
      | .error reason => .error (.invalidValue a value reason)
    else .ok taken

/-- Take the argument that waits, if one does. -/
def settle (p : Progress) : Except Interruption Progress :=
  match p.waiting with
  | none => .ok p
  | some (a, none) => .error (.fault (.missingValue a))
  | some (a, some value) =>
    match Progress.take { p with waiting := none } a value with
    | .ok p => .ok p
    | .error f => .error (.fault f)

/-- Take an argument whose value is at hand, or a switch. -/
def give (verb : Option Verb) (p : Progress) (a : Argument) (value : String) :
    Except Interruption Progress := do
  let p ← p.settle
  match a with
  | .help => .error .help
  | .version => .error (.version verb)
  | a =>
    match p.take a value with
    | .ok p => .ok p
    | .error f => .error (.fault f)

/-- Let an argument wait for its value. -/
def await (p : Progress) (a : Argument) : Except Interruption Progress := do
  let p ← p.settle
  return { p with waiting := some (a, none) }

/-- Read short names behind one dash. What stands behind the name of an argument that takes a value
is its value; an equals sign between them does not count. -/
def readShort (verb : Option Verb) (known : List Argument) (p : Progress) :
    List Char → Except Interruption Progress
  | [] => .ok p
  | c :: cs =>
    match known.find? (·.short? == some c) with
    | none => .error (.fault (.unexpectedArgument (String.ofList ['-', c])))
    | some a =>
      if a.takesValue then
        match cs with
        | [] => p.await a
        | '=' :: value => p.give verb a (String.ofList value)
        | value => p.give verb a (String.ofList value)
      else do
        let p ← p.give verb a ""
        p.readShort verb known cs

/-- Read a long name behind two dashes, and the value behind an equals sign. -/
def readLong (verb : Option Verb) (known : List Argument) (p : Progress) (body : List Char) :
    Except Interruption Progress :=
  let (name, value) := match Property.cut? body with
    | some (name, value) => (String.ofList name, some (String.ofList value))
    | none => (String.ofList body, none)
  match known.find? (·.long == name), value with
  | none, _ => .error (.fault (.unexpectedArgument ("--" ++ name)))
  | some a, some value =>
    if a.takesValue then p.give verb a value
    else .error (.fault (.unexpectedValue a value))
  | some a, none => if a.takesValue then p.await a else p.give verb a ""

end Progress

/-- A word of a command line by the way it is written. -/
inductive Word where
  /-- Two dashes: no argument follows. -/
  | divider
  | long (body : List Char)
  | short (names : List Char)
  | plain (text : String)

/-- The way a word is written. -/
def Word.ofText (text : String) : Word :=
  match text.toList with
  | ['-', '-'] => .divider
  | '-' :: '-' :: body => .long body
  | ['-'] => .plain text
  | '-' :: names => .short names
  | _ => .plain text

/-- Read the words behind the name of a command. -/
def readArguments (verb : Verb) (p : Progress) : List String → Except Interruption Progress
  | [] => p.settle
  | word :: rest => do
    match Word.ofText word with
    | .divider =>
      match rest with
      | [] => p.settle
      | stray :: _ => .error (.fault (.unexpectedArgument stray))
    | .long body =>
      let p ← p.readLong (some verb) verb.arguments body
      readArguments verb p rest
    | .short names =>
      let p ← p.readShort (some verb) verb.arguments names
      readArguments verb p rest
    | .plain text =>
      match p.waiting with
      | some (a, none) => readArguments verb { p with waiting := some (a, some text) } rest
      | _ => .error (.fault (.unexpectedArgument text))

/-- The directory into which a unit is written if none is given. -/
def defaultOutDir : String := "generated"

/-- The properties that were given. Each was checked when it was taken. -/
def Progress.properties (p : Progress) : List Property :=
  (p.values .property).filterMap fun value => (Property.parse value).toOption

/-- The path that was given for an argument. -/
def Progress.path? (p : Progress) (a : Argument) : Option Path :=
  (p.values a).head?.map Path.mk

/-- The command with the arguments that were given. -/
def Progress.command (p : Progress) (verb : Verb) : Command :=
  let decls : Path := (p.path? .decls).getD ⟨""⟩
  let settings := p.path? .config
  let deny := p.has .denyWarnings
  match verb with
  | .generate =>
    .generate decls ((p.path? .outDir).getD ⟨defaultOutDir⟩) settings p.properties deny
  | .validate => .validate decls settings p.properties deny
  | .scan => .scan decls
  | .config => .config (p.path? .decls) settings p.properties

/-- Read the rest of a command line behind the name of a command. -/
def readCommand (verbose : Bool) (verb : Verb) (words : List String) :
    Except Interruption Invocation := do
  let p ← readArguments verb .start words
  match verb.required.filter (!p.has ·) with
  | [] =>
    return { verbose := verbose || p.has .verbose
             command := p.command verb
             output := if p.has .json then .document else .prose false }
  | missing => .error (.fault (.missingArguments missing))

/-- Read the words behind `help`: the name of a command, and nothing more. -/
def readHelp : List String → Interruption
  | [] => .help
  | word :: rest =>
    if (Verb.ofName? word).isSome || word == "help" then
      match rest with
      | [] => .help
      | stray :: _ => .fault (.unknownCommand stray)
    else .fault (.unknownCommand word)

/-- The interruption at the end of a line that names no command. -/
def withoutCommand (p : Progress) : Interruption :=
  if p.given.isEmpty then .nothing else .fault .missingCommand

/-- Read a command line up to the name of the command and from there on. -/
def readWords (p : Progress) : List String → Except Interruption Invocation
  | [] => .error (withoutCommand p)
  | word :: rest =>
    match Verb.ofName? word with
    | some verb => readCommand (p.has .verbose) verb rest
    | none =>
      if word = "help" then .error (readHelp rest)
      else match Word.ofText word with
        | .divider =>
          match rest with
          | [] => .error (withoutCommand p)
          | stray :: _ => .error (.fault (.unknownCommand stray))
        | .long body => do
          let p ← p.readLong none everywhere body
          readWords p rest
        | .short names => do
          let p ← p.readShort none everywhere names
          readWords p rest
        | .plain text => .error (.fault (.unknownCommand text))

/-- What a command line asks for. -/
def read (words : List String) : Except Interruption Invocation := readWords .start words

end HandlerWiring.CommandLine
