/-!
# Places in a text

A place is told by its line, counted from one, and by the number of bytes that stand before it on
that line. A cursor is a place together with the text from there on; reading moves cursors
forward and never back.
-/

namespace HandlerWiring.Json

/-- A place: the line from one on, and the bytes before the place on that line. -/
structure Place where
  line : Nat
  column : Nat
deriving DecidableEq, Repr

namespace Place

/-- Where every text starts. -/
def start : Place := ⟨1, 0⟩

/-- The place behind a character. -/
def after (p : Place) (c : Char) : Place :=
  if c = '\n' then ⟨p.line + 1, 0⟩ else ⟨p.line, p.column + c.utf8Size⟩

/-- The place behind a run of characters. -/
def afterAll (p : Place) (cs : List Char) : Place :=
  cs.foldl after p

/-- The place behind the first `count` bytes of a text, which may lie inside a character. -/
def afterBytes (p : Place) (count : Nat) : List Char → Place
  | [] => p
  | c :: cs =>
    if count = 0 then p
    else if c.utf8Size ≤ count then (p.after c).afterBytes (count - c.utf8Size) cs
    else ⟨p.line, p.column + count⟩

/-- The place one byte ahead, or the place itself where the text ends. -/
def facing (p : Place) : List Char → Place
  | [] => p
  | c :: _ => if c = '\n' then ⟨p.line + 1, 0⟩ else ⟨p.line, p.column + 1⟩

end Place

/-- A place and the text from there on. -/
structure Cursor where
  place : Place
  rest : List Char
deriving DecidableEq, Repr

namespace Cursor

/-- The cursor at the start of a text. -/
def ofText (cs : List Char) : Cursor := ⟨.start, cs⟩

/-- The place one byte ahead of a cursor. -/
def facing (c : Cursor) : Place := c.place.facing c.rest

/-- The four characters that may stand between tokens. -/
def isGap (c : Char) : Bool :=
  c = ' ' || c = '\n' || c = '\t' || c = '\r'

/-- Move over the characters that satisfy a test. -/
def skipWhile (test : Char → Bool) (p : Place) : List Char → Cursor
  | [] => ⟨p, []⟩
  | c :: cs => if test c then skipWhile test (p.after c) cs else ⟨p, c :: cs⟩

/-- Move over the gap before the next token. -/
def skipGap (c : Cursor) : Cursor := skipWhile isGap c.place c.rest

end Cursor

end HandlerWiring.Json
