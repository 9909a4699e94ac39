import HandlerWiring.Toml.Numeral

/-!
# Tables

A document is a table of named nodes. A table is made once: by its own section, or on the way by a
dotted key or by the path of a longer section. What was made on the way may still be added to in
the way it was made; a section may follow the sections inside it, and nothing may be set twice.
-/

namespace HandlerWiring.Toml

/-- A value that has a text. -/
inductive Scalar where
  | text (s : String)
  | number (n : Number)
  | boolean (b : Bool)
  | moment (m : Moment)
deriving DecidableEq, Repr

/-- The text of a scalar. -/
def Scalar.asText : Scalar → String
  | .text s => s
  | .number n => String.ofList n.text
  | .boolean b => if b then "true" else "false"
  | .moment m => String.ofList m.text

/-- How a table came to be. -/
inductive Making where
  /-- By a section of its own. -/
  | section
  /-- On the way to a section inside it. -/
  | passage
  /-- On the way of a dotted key. -/
  | dotted
deriving DecidableEq, Repr

/-- What a name of a document stands for. -/
inductive Node where
  | scalar (s : Scalar)
  | list (items : List Node)
  /-- A table on one line, to which nothing can be added. -/
  | sealed (entries : List (String × Node))
  | table (making : Making) (entries : List (String × Node))
  /-- The tables of repeated sections, the last one first. -/
  | tables (elements : List (List (String × Node)))

/-- The named nodes of a table, in the order in which they were made. -/
abbrev Table := List (String × Node)

namespace Table

/-- The node of a name. -/
def get? (t : Table) (key : String) : Option Node :=
  (t.find? (·.1 = key)).map (·.2)

/-- The table with the node of a name replaced, or added at the end. -/
def put (key : String) (node : Node) : Table → Table
  | [] => [(key, node)]
  | (k, n) :: rest => if k = key then (k, node) :: rest else (k, n) :: put key node rest

/-- Change the table at the end of a path, making those that are missing on the way. A dotted key
may not lead through the section of another table; the path of a section may, and where sections
repeat it leads into the last one. -/
def alter (dotted : Bool) (change : Making → Table → Option Table) :
    List String → Making → Table → Option Table
  | [], making, t => change making t
  | key :: rest, _, t =>
    match t.get? key with
    | none => do
      let making := if dotted then Making.dotted else Making.passage
      let inner ← alter dotted change rest making []
      return t.put key (.table making inner)
    | some (.table making inner) => do
      if dotted && making == .section then none
      let inner ← alter dotted change rest making inner
      return t.put key (.table making inner)
    | some (.tables (last :: before)) => do
      let last ← alter dotted change rest .section last
      return t.put key (.tables (last :: before))
    | some _ => none

/-- Set a name that has no node yet. Behind dots it has to be in a table that dots made. -/
def setNew (behindDots : Bool) (key : String) (node : Node) (making : Making) (t : Table) :
    Option Table :=
  if behindDots && making != .dotted then none
  else match t.get? key with
    | none => some (t.put key node)
    | some _ => none

/-- Set the name at the end of a dotted key. -/
def setAt (path : List String) (key : String) (node : Node) (making : Making) (t : Table) :
    Option Table :=
  alter true (setNew (!path.isEmpty) key node) path making t

/-- Open a section. It may have been passed through before, but not opened. -/
def openSection (key : String) (_ : Making) (t : Table) : Option Table :=
  match t.get? key with
  | none => some (t.put key (.table .section []))
  | some (.table .passage inner) => some (t.put key (.table .section inner))
  | some _ => none

/-- Open one more of the repeated sections of a name. -/
def openElement (key : String) (_ : Making) (t : Table) : Option Table :=
  match t.get? key with
  | none => some (t.put key (.tables [[]]))
  | some (.tables elements) => some (t.put key (.tables ([] :: elements)))
  | some _ => none

end Table

end HandlerWiring.Toml
