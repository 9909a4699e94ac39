import HandlerWiring.Toml.Quotation
import HandlerWiring.Toml.Table

/-!
# Settings documents

The grammar of a document: lines that set a key, open a section or open one more of repeated
sections, blank lines and comments. Lists and tables on one line nest less than eighty deep, and a
key has fewer than eighty parts.
-/

namespace HandlerWiring.Toml

/-- The number of parts of a key, and of levels of nesting, that is too many. -/
def depthLimit : Nat := 80

/-- Whether a character may stand in a name without quotes. -/
def isBare (c : Char) : Bool := c.isAlphanum || c = '-' || c = '_'

/-- Read a name, quoted on one line or bare. -/
def readName : List Char → Option (String × List Char)
  | '"' :: cs => (Quotation.readBasic cs).map fun (s, rest) => (String.ofList s, rest)
  | '\'' :: cs => (Quotation.readLiteral cs).map fun (s, rest) => (String.ofList s, rest)
  | cs =>
    let name := cs.takeWhile isBare
    if name.isEmpty then none else some (String.ofList name, cs.dropWhile isBare)

/-- Read names with dots between them, at most as many as the fuel. Spaces may stand around each
name. -/
def readNames : Nat → List Char → Option (List String × List Char)
  | 0, _ => none
  | fuel + 1, cs => do
    let (name, cs) ← readName (skipSpaces cs)
    match skipSpaces cs with
    | '.' :: rest => do
      let (names, rest) ← readNames fuel rest
      return (name :: names, rest)
    | rest => return ([name], rest)

/-- Read a key: the names before the last dot, and the last name. -/
def readKey (cs : List Char) : Option (List String × String × List Char) := do
  let (names, rest) ← readNames (depthLimit - 1) cs
  let last ← names.getLast?
  return (names.dropLast, last, rest)

/-- The text behind a comment, if one begins here. -/
def skipComment : List Char → List Char
  | '#' :: cs => cs.dropWhile isLineText
  | cs => cs

/-- The text behind the end of a line, before which spaces and a comment may stand. The end of the
document ends a line too. -/
def skipLineEnd (cs : List Char) : Option (List Char) :=
  match skipComment (skipSpaces cs) with
  | [] => some []
  | rest => lineEnd? rest

/-- The text behind blanks, comments and line ends between the items of a list. -/
def skipGap : Nat → List Char → Option (List Char)
  | 0, cs => some cs
  | fuel + 1, cs =>
    match skipSpaces cs with
    | '#' :: rest => (lineEnd? (skipComment ('#' :: rest))).bind (skipGap fuel)
    | '\n' :: rest => skipGap fuel rest
    | '\r' :: rest => (lineEnd? ('\r' :: rest)).bind (skipGap fuel)
    | rest => some rest

/-- Read a word if the text starts with it. -/
def readWord (word : String) (cs : List Char) : Option (List Char) :=
  if word.toList.isPrefixOf cs then some (cs.drop word.length) else none

/-- Read a scalar, told apart by its first character. -/
def readScalar : List Char → Option (Scalar × List Char)
  | [] => none
  | c :: cs =>
    if c = '"' ∨ c = '\'' then
      (Quotation.read (c :: cs)).map fun (s, rest) => (.text (String.ofList s), rest)
    else if c = 't' then (readWord "true" (c :: cs)).map fun rest => (.boolean true, rest)
    else if c = 'f' then (readWord "false" (c :: cs)).map fun rest => (.boolean false, rest)
    else match Moment.read (c :: cs) with
      | some (m, rest) => some (.moment m, rest)
      | none => (Number.read (c :: cs)).map fun (n, rest) => (.number n, rest)

mutual

/-- Read a value that nests at most `depth` deep. The fuel is at least the length of the text. -/
def readValue (fuel depth : Nat) (cs : List Char) : Option (Node × List Char) :=
  match fuel, depth, cs with
  | 0, _, _ => none
  | _, 0, '[' :: _ => none
  | _, 0, '\x7b' :: _ => none
  | fuel + 1, depth + 1, '[' :: cs =>
    (readItems fuel depth cs).map fun (items, rest) => (.list items, rest)
  | fuel + 1, depth + 1, '\x7b' :: cs =>
    match skipSpaces cs with
    | '\x7d' :: rest => some (.sealed [], rest)
    | rest => (readMembers fuel depth [] rest).map fun (t, rest) => (.sealed t, rest)
  | _, _, cs => (readScalar cs).map fun (s, rest) => (.scalar s, rest)
termination_by structural fuel

/-- Read the items of a list up to its end. A comma may stand behind the last one. -/
def readItems (fuel depth : Nat) (cs : List Char) : Option (List Node × List Char) :=
  match fuel with
  | 0 => none
  | fuel + 1 => do
    match ← skipGap cs.length cs with
    | ']' :: rest => return ([], rest)
    | cs =>
      let (item, rest) ← readValue fuel depth cs
      match ← skipGap rest.length rest with
      | ',' :: rest =>
        let (items, rest) ← readItems fuel depth rest
        return (item :: items, rest)
      | ']' :: rest => return ([item], rest)
      | _ => none
termination_by structural fuel

/-- Read the members of a table on one line up to its end. No comma may stand behind the last
one. -/
def readMembers (fuel depth : Nat) (t : Table) (cs : List Char) : Option (Table × List Char) :=
  match fuel with
  | 0 => none
  | fuel + 1 => do
    let (path, key, cs) ← readKey cs
    let cs ← readMark '=' cs
    let (node, cs) ← readValue fuel depth (skipSpaces cs)
    let t ← t.setAt path key node .section
    match skipSpaces cs with
    | ',' :: rest => readMembers fuel depth t rest
    | '\x7d' :: rest => return (t, rest)
    | _ => none
termination_by structural fuel

end

/-- What the lines of a document have made so far: the table of the document, and the path of the
section that is open. -/
structure Draft where
  root : Table
  path : List String

namespace Draft

/-- Change the table of the open section. -/
def alterOpen (d : Draft) (change : Making → Table → Option Table) : Option Draft := do
  let root ← Table.alter false change d.path .section d.root
  return { d with root }

/-- Read a line that sets a key. -/
def readSetting (d : Draft) (cs : List Char) : Option (Draft × List Char) := do
  let (path, key, rest) ← readKey cs
  let rest ← readMark '=' rest
  let (node, rest) ← readValue (rest.length + 1) (depthLimit - 1) (skipSpaces rest)
  let rest ← skipLineEnd rest
  let d ← d.alterOpen (Table.setAt path key node)
  return (d, rest)

/-- Read the rest of a line that opens a section, behind its first bracket. -/
def readSection (d : Draft) (cs : List Char) : Option (Draft × List Char) := do
  let (path, key, rest) ← readKey cs
  let rest ← readMark ']' rest
  let rest ← skipLineEnd rest
  let root ← Table.alter false (Table.openSection key) path .section d.root
  return (⟨root, path ++ [key]⟩, rest)

/-- Read the rest of a line that opens one more of repeated sections, behind its brackets. -/
def readElement (d : Draft) (cs : List Char) : Option (Draft × List Char) := do
  let (path, key, rest) ← readKey cs
  let rest ← readMark ']' rest
  let rest ← readMark ']' rest
  let rest ← skipLineEnd rest
  let root ← Table.alter false (Table.openElement key) path .section d.root
  return (⟨root, path ++ [key]⟩, rest)

/-- Read one line. -/
def readLine (d : Draft) : List Char → Option (Draft × List Char)
  | '[' :: '[' :: cs => d.readElement cs
  | '[' :: cs => d.readSection cs
  | '#' :: cs => (skipLineEnd ('#' :: cs)).map fun rest => (d, rest)
  | '\n' :: cs => some (d, cs)
  | '\r' :: cs => (lineEnd? ('\r' :: cs)).map fun rest => (d, rest)
  | cs => d.readSetting cs

/-- Read lines up to the end of the text. The fuel is at least the number of lines. -/
def readLines : Nat → Draft → List Char → Option Draft
  | 0, _, _ => none
  | fuel + 1, d, cs =>
    match skipSpaces cs with
    | [] => some d
    | cs => do
      let (d, rest) ← d.readLine cs
      readLines fuel d rest

end Draft

/-- The table that a document makes; none if the text is no document. A byte order mark may stand
in front. -/
def read (text : String) : Option Table :=
  let cs := match text.toList with
    | '\ufeff' :: rest => rest
    | cs => cs
  (Draft.readLines (cs.length + 1) ⟨[], []⟩ cs).map Draft.root

end HandlerWiring.Toml
