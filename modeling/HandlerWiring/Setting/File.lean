import HandlerWiring.Dictionary
import HandlerWiring.Toml.Document

/-!
# Settings files

A settings file sets names to scalars. Each scalar counts as its text. Lists and tables are
refused, however they are written; of several refused names the least is reported, so that it does
not matter in which order they stand.
-/

namespace HandlerWiring

open Toml

/-- Why the text of a settings file is refused. -/
inductive SettingsFault where
  /-- It does not follow the grammar. -/
  | malformed
  /-- A name stands for a list or a table. -/
  | compound (key : String)
deriving DecidableEq, Repr

/-- The text of a node that is a scalar. -/
def Toml.Node.text? : Node → Option String
  | .scalar s => some s.asText
  | _ => none

namespace SettingsFile

/-- The least text of a list. -/
def least? : List String → Option String
  | [] => none
  | k :: ks =>
    match least? ks with
    | none => some k
    | some m => some (if m < k then m else k)

/-- The names that stand for lists and tables. -/
def compounds (t : Table) : List String :=
  (t.filter fun entry => entry.2.text?.isNone).map (·.1)

/-- The names that stand for scalars, with their texts. -/
def scalars (t : Table) : List (String × String) :=
  t.filterMap fun entry => entry.2.text?.map fun text => (entry.1, text)

/-- The settings in a table. -/
def ofTable (t : Table) : Except SettingsFault Dictionary :=
  match least? (compounds t) with
  | some key => .error (.compound key)
  | none => .ok (.ofList (scalars t))

/-- The settings in the text of a file. -/
def read (text : String) : Except SettingsFault Dictionary :=
  match Toml.read text with
  | none => .error .malformed
  | some t => ofTable t

end SettingsFile

end HandlerWiring
