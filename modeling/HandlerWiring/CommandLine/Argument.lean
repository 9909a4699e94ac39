import HandlerWiring.Command.Basic

/-!
# Arguments of the command line

The commands by their names, and the arguments that each one takes. An argument has a long name
and may have a short one; it either takes a value or is a switch.
-/

namespace HandlerWiring.CommandLine

/-- The name of a command. -/
inductive Verb where
  | generate
  | validate
  | scan
  | config
deriving DecidableEq, Repr

/-- An argument. -/
inductive Argument where
  | decls
  | outDir
  | config
  | property
  | denyWarnings
  | json
  | verbose
  | help
  | version
deriving DecidableEq, Repr

namespace Argument

/-- The long name. -/
def long : Argument → String
  | .decls => "decls"
  | .outDir => "out-dir"
  | .config => "config"
  | .property => "property"
  | .denyWarnings => "deny-warnings"
  | .json => "json"
  | .verbose => "verbose"
  | .help => "help"
  | .version => "version"

/-- The short name. -/
def short? : Argument → Option Char
  | .decls => some 'd'
  | .outDir => some 'o'
  | .config => some 'c'
  | .property => some 'p'
  | .denyWarnings => none
  | .json => none
  | .verbose => some 'v'
  | .help => some 'h'
  | .version => some 'V'

/-- What stands for the value of an argument that takes one. -/
def placeholder? : Argument → Option String
  | .decls => some "DECLS"
  | .outDir => some "OUT_DIR"
  | .config => some "CONFIG"
  | .property => some "NAME=VALUE"
  | _ => none

/-- Whether an argument takes a value. -/
def takesValue (a : Argument) : Bool := a.placeholder?.isSome

/-- Whether an argument may be given more than once. -/
def repeats : Argument → Bool
  | .property => true
  | _ => false

/-- An argument as complaints name it. -/
def label (a : Argument) : String :=
  "--" ++ a.long ++
    match a.placeholder? with
    | some placeholder => " <" ++ placeholder ++ ">"
    | none => ""

end Argument

/-- The arguments in front of the name of a command; every command takes them too. -/
def everywhere : List Argument := [.verbose, .help, .version]

namespace Verb

/-- The names, in the order in which they are listed. -/
def all : List Verb := [.generate, .validate, .scan, .config]

/-- How a command is called. -/
def name : Verb → String
  | .generate => "generate"
  | .validate => "validate"
  | .scan => "scan"
  | .config => "config"

/-- The command that is called so. -/
def ofName? (name : String) : Option Verb := all.find? (·.name == name)

/-- The arguments that a command takes. -/
def arguments : Verb → List Argument
  | .generate => [.decls, .outDir, .config, .property, .denyWarnings, .json] ++ everywhere
  | .validate => [.decls, .config, .property, .denyWarnings, .json] ++ everywhere
  | .scan => [.decls, .json] ++ everywhere
  | .config => [.decls, .config, .property, .json] ++ everywhere

/-- The arguments that a command cannot do without. -/
def required : Verb → List Argument
  | .config => []
  | _ => [.decls]

end Verb

end HandlerWiring.CommandLine
