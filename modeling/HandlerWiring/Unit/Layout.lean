/-!
# Laying out code

Code is a list of lines with braces on lines of their own. Laying it out indents each line by four
spaces for every brace open around it; an empty line stays empty.
-/

namespace HandlerWiring.Unit

/-- A line of code. -/
inductive Line where
  | text (s : String)
  | blank
  /-- An opening brace; what follows is one level deeper. -/
  | opening
  /-- A closing brace, on the level outside. -/
  | closing
deriving DecidableEq, Repr

/-- Four spaces for each level. -/
def indentation (depth : Nat) : List Char := List.replicate (4 * depth) ' '

/-- A line of text at a depth. -/
def lineAt (depth : Nat) (cs : List Char) : List Char := indentation depth ++ cs ++ ['\n']

/-- The text of some lines, the first at a depth. -/
def layOut : Nat → List Line → List Char
  | _, [] => []
  | depth, .text s :: rest => lineAt depth s.toList ++ layOut depth rest
  | depth, .blank :: rest => '\n' :: layOut depth rest
  | depth, .opening :: rest => lineAt depth ['\x7b'] ++ layOut (depth + 1) rest
  | depth, .closing :: rest => lineAt (depth - 1) ['\x7d'] ++ layOut (depth - 1) rest

end HandlerWiring.Unit
