import HandlerWiring.Decimal.Format
import HandlerWiring.Json.Value

/-!
# Printing JSON

A value is printed in a *layout*, which says what stands before each item of a list or record and
before its closing bracket, depending on the depth, and what stands behind a colon. Both layouts
here put only gap characters there, so the two texts of a value denote the same document. An empty
list and an empty record are printed as two adjacent brackets in every layout.
-/

namespace HandlerWiring.Json

/-- What stands between the tokens of a printed value. -/
structure Layout where
  /-- Before an item, or a closing bracket, at a depth. -/
  line : Nat → List Char
  /-- Behind the colon of a member. -/
  behindColon : List Char

/-- Nothing between the tokens. -/
def Layout.compact : Layout := { line := fun _ => [], behindColon := [] }

/-- Each item on a line of its own, indented by two spaces for every level. -/
def Layout.indented : Layout :=
  { line := fun depth => '\n' :: List.replicate (2 * depth) ' ', behindColon := [' '] }

/-- How a character of a text is spelt: the quote, the backslash and the control characters are
escaped, the control characters by their short escape if they have one. -/
def spelling (c : Char) : List Char :=
  if c = '"' then ['\\', '"']
  else if c = '\\' then ['\\', '\\']
  else if c = '\x08' then ['\\', 'b']
  else if c = '\x0c' then ['\\', 'f']
  else if c = '\n' then ['\\', 'n']
  else if c = '\r' then ['\\', 'r']
  else if c = '\t' then ['\\', 't']
  else if c.toNat < 0x20 then
    ['\\', 'u', '0', '0', Nat.digitChar (c.toNat / 16), Nat.digitChar (c.toNat % 16)]
  else [c]

/-- A text between its quotes. -/
def printText (s : String) : List Char :=
  '"' :: s.toList.flatMap spelling ++ ['"']

/-- The text of an integer. -/
def printInteger (n : Int) : List Char :=
  (if n < 0 then ['-'] else []) ++ Decimal.digitsOf n.natAbs

/-- The text of a number. -/
def printNumber : Number → List Char
  | .integer n => printInteger n
  | .real bits => Decimal.pointed.writeBits bits

mutual

/-- The text of a value that stands at a depth. -/
def Value.print (layout : Layout) (depth : Nat) : Value → List Char
  | .null => "null".toList
  | .boolean true => "true".toList
  | .boolean false => "false".toList
  | .number n => printNumber n
  | .text s => printText s
  | .list [] => ['[', ']']
  | .list (item :: items) =>
    '[' :: layout.line (depth + 1) ++ item.print layout (depth + 1) ++
      printItems layout (depth + 1) items ++ layout.line depth ++ [']']
  | .record [] => ['\x7b', '\x7d']
  | .record ((key, value) :: members) =>
    '\x7b' :: layout.line (depth + 1) ++ printText key ++ ':' :: layout.behindColon ++
      value.print layout (depth + 1) ++ printMembers layout (depth + 1) members ++
      layout.line depth ++ ['\x7d']
termination_by structural value => value

/-- The items behind the first, each with the comma before it. -/
def printItems (layout : Layout) (depth : Nat) : List Value → List Char
  | [] => []
  | item :: items =>
    ',' :: layout.line depth ++ item.print layout depth ++ printItems layout depth items
termination_by structural items => items

/-- The members behind the first, each with the comma before it. -/
def printMembers (layout : Layout) (depth : Nat) : List (String × Value) → List Char
  | [] => []
  | (key, value) :: members =>
    ',' :: layout.line depth ++ printText key ++ ':' :: layout.behindColon ++
      value.print layout depth ++ printMembers layout depth members
termination_by structural members => members

end

/-- The text of a value without gaps. -/
def Value.compact (v : Value) : String := String.ofList (v.print .compact 0)

/-- The text of a value with each item on a line of its own. -/
def Value.pretty (v : Value) : String := String.ofList (v.print .indented 0)

end HandlerWiring.Json
