import HandlerWiring.Json.Node
import HandlerWiring.Json.Numeral
import HandlerWiring.Json.Quotation

/-!
# Scanning a text into a document

The text is walked once, from its start to the first point behind which nothing can be read, and
every fault is kept where it stands. The scanner recurses on fuel; of any two nested steps one
takes a character, so twice the length of the text is enough.
-/

namespace HandlerWiring.Json

/-- A node that nobody can read, with one fault for all. -/
def Node.unreadable (f : Fault) : Node := .broken f f f

/-- The rest of a list behind an item that cannot be read. No reader gets there. -/
def Items.lost : Items :=
  .broken .start (.unplaced .endInList) (.unplaced .endInList) (.unplaced .endInList)

/-- The rest of a record behind a value that cannot be read. No reader gets there. -/
def Entries.lost : Entries :=
  .broken .start (.unplaced .endInRecord) (.unplaced .endInRecord) (.unplaced .endInRecord)
    (.unplaced .endInRecord)

/-- The cursor behind a word whose remaining letters are given. -/
def scanWord (letters : List Char) (c : Cursor) : Except Fault Cursor :=
  match letters, c.rest with
  | [], _ => .ok c
  | _ :: _, [] => .error (.atPlace .endInValue c.place)
  | l :: letters, r :: rest =>
    if r = l then scanWord letters ⟨c.place.after r, rest⟩
    else .error (.atPlace .misspeltWord c.facing)

/-- A word as a node. -/
def wordNode (word : List Char) (make : Place → Place → Node) (c : Cursor) :
    Node × Option Cursor :=
  match scanWord word c with
  | .ok next => (make c.place next.place, some next)
  | .error f => (.broken f (.atPlace .noValue (onto c.place)) f, none)

/-- A numeral as a node. -/
def numberNode (c : Cursor) : Node × Option Cursor :=
  match Numeral.scan c with
  | .error b => (.broken b.whenRead (.atPlace .noValue (onto c.place)) b.whenSkipped, none)
  | .ok (numeral, next) =>
    let value := match numeral.value with
      | .ok n => .ok n
      | .error length => .error (.atPlace .hugeNumber ⟨c.place.line, c.place.column + length⟩)
    (.number c.place next.place value, some next)

/-- The text between quotes as a value, for a cursor behind the opening quote. -/
def readQuotation (c : Cursor) : Except Fault String :=
  match Quotation.read c.place c.rest with
  | .ok (cs, _) => .ok (String.ofList cs)
  | .error f => .error f

/-- The fault of a reader, or another fault if that reader has none. -/
def faultOr (r : Except Fault α) (f : Fault) : Fault :=
  match r with
  | .ok _ => f
  | .error g => g

/-- A quoted text as a node; `inner` is behind the opening quote. -/
def textNode (start : Place) (inner : Cursor) : Node × Option Cursor :=
  let value := readQuotation inner
  match Quotation.skip inner.place inner.rest with
  | .ok next => (.text start next.place value, some next)
  | .error f => let g := faultOr value f; (.broken g g f, none)

mutual

/-- The node at a cursor, and the cursor behind it unless the node is broken. -/
def scanNode (fuel depth : Nat) (c : Cursor) : Node × Option Cursor :=
  match fuel with
  | 0 => (.unreadable (.atPlace .endInValue c.place), none)
  | fuel + 1 =>
    let c := c.skipGap
    match c.rest with
    | [] => (.unreadable (.atPlace .endInValue c.place), none)
    | ch :: rest =>
      if ch = 'n' then wordNode "null".toList .null c
      else if ch = 't' then wordNode "true".toList (.boolean · · true) c
      else if ch = 'f' then wordNode "false".toList (.boolean · · false) c
      else if ch = '"' then textNode c.place ⟨c.place.after ch, rest⟩
      else if ch = '[' then
        let (items, next) := scanItems fuel (depth + 1) true ⟨c.place.after ch, rest⟩
        (.list c.place depth items, next)
      else if ch = '\x7b' then
        let (entries, next) := scanEntries fuel (depth + 1) true ⟨c.place.after ch, rest⟩
        (.record c.place depth entries, next)
      else if ch = '-' ∨ ch.isDigit then numberNode c
      else (.unreadable (.atPlace .noValue c.facing), none)

/-- The rest of a list at a cursor; `first` tells that no item stands before it. -/
def scanItems (fuel depth : Nat) (first : Bool) (c : Cursor) : Items × Option Cursor :=
  match fuel with
  | 0 => (.lost, none)
  | fuel + 1 =>
    let c := c.skipGap
    let item (c : Cursor) : Items × Option Cursor :=
      match scanNode fuel depth c with
      | (node, none) => (.more c.place (.atPlace .trailingCharacters c.facing) node .lost, none)
      | (node, some next) =>
        let (items, last) := scanItems fuel depth false next
        (.more c.place (.atPlace .trailingCharacters c.facing) node items, last)
    match c.rest with
    | [] =>
      let f := .atPlace .endInList c.place
      (.broken c.place f f f, none)
    | ch :: rest =>
      if ch = ']' then (.close (c.place.after ch), some ⟨c.place.after ch, rest⟩)
      else if first then item c
      else if ch = ',' then
        let c := (Cursor.mk (c.place.after ch) rest).skipGap
        match c.rest with
        | [] =>
          let f := .atPlace .endInValue c.place
          (.broken c.place f (.atPlace .trailingCharacters c.place) f, none)
        | ']' :: _ =>
          let f := .atPlace .trailingComma c.facing
          (.broken c.place f f (.atPlace .noValue c.facing), none)
        | _ => item c
      else
        let f := .atPlace .noListSeparator c.facing
        (.broken c.place f (.atPlace .trailingCharacters c.facing) f, none)

/-- The rest of a record at a cursor; `first` tells that no entry stands before it. -/
def scanEntries (fuel depth : Nat) (first : Bool) (c : Cursor) : Entries × Option Cursor :=
  match fuel with
  | 0 => (.lost, none)
  | fuel + 1 =>
    let c := c.skipGap
    let resting := c.place
    let ended := if c.rest.isEmpty then .atPlace .endInRecord c.place else .atPlace .noValue c.place
    let entry (inner : Cursor) : Entries × Option Cursor :=
      let key := readQuotation inner
      match Quotation.skip inner.place inner.rest with
      | .error f => let g := faultOr key f; (.broken resting g g ended f, none)
      | .ok behind =>
        let colon := behind.skipGap
        match colon.rest with
        | ':' :: rest =>
          match scanNode fuel depth ⟨colon.place.after ':', rest⟩ with
          | (value, none) =>
            (.more resting ended key behind.place colon.place value .lost, none)
          | (value, some next) =>
            let (entries, last) := scanEntries fuel depth false next
            (.more resting ended key behind.place colon.place value entries, last)
        | [] =>
          let f := .atPlace .endInRecord colon.place
          (.more resting ended key behind.place colon.place (.unreadable f) .lost, none)
        | ch :: _ =>
          let f := .atPlace .noColon colon.facing
          let keyResting := if ch = '\x7d' then colon.place.after ch else colon.place
          (.more resting ended key behind.place keyResting (.unreadable f) .lost, none)
    match c.rest with
    | [] =>
      let f := .atPlace .endInRecord c.place
      (.broken c.place f (.atPlace .endInValue c.place) f f, none)
    | ch :: rest =>
      if ch = '\x7d' then (.close (c.place.after ch), some ⟨c.place.after ch, rest⟩)
      else if first then
        if ch = '"' then entry ⟨c.place.after ch, rest⟩
        else
          let f := .atPlace .keyNotText c.facing
          let named := (scanNode fuel depth c).1.wrongKind "variant identifier"
          (.broken c.place f named ended f, none)
      else if ch = ',' then
        let next := (Cursor.mk (c.place.after ch) rest).skipGap
        match next.rest with
        | [] =>
          let f := .atPlace .endInValue next.place
          (.broken resting f f ended (.atPlace .endInRecord next.place), none)
        | ch :: rest =>
          let f := .atPlace .keyNotText next.facing
          if ch = '"' then entry ⟨next.place.after ch, rest⟩
          else if ch = '\x7d' then
            let g := .atPlace .trailingComma next.facing
            (.broken resting g g ended f, none)
          else (.broken resting f f ended f, none)
      else
        let f := .atPlace .noRecordSeparator c.facing
        (.broken resting f f ended f, none)

end

/-- The document that a text holds. -/
def Document.ofText (cs : List Char) : Document :=
  match scanNode (2 * cs.length + 2) 0 (.ofText cs) with
  | (root, none) => ⟨root, none⟩
  | (root, some c) =>
    let c := c.skipGap
    ⟨root, if c.rest.isEmpty then none else some (.atPlace .trailingCharacters c.facing)⟩

end HandlerWiring.Json
