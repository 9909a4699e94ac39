import HandlerWiring.Json.Form

/-!
# Source locations

A position in a file of the host program.
-/

namespace HandlerWiring

open Json

/-- A position in a source file. -/
structure Location where
  file : String
  line : UInt32
  column : UInt32
deriving DecidableEq, Repr

namespace Location

/-- A location as it stands in reports: the file, then line and column in parentheses. -/
def text (l : Location) : String :=
  l.file ++ "(" ++ toString l.line.toNat ++ "," ++ toString l.column.toNat ++ ")"

/-- How a location stands in documents. -/
def form : Form Location where
  schema := .record "SourceLocation" true <|
    .field "file" .required .text <|
    .field "line" .required .word <|
    .field "column" .required .word .none
  toRow l := (l.file, l.line, l.column, ())
  ofRow := fun (file, line, column, ()) => ⟨file, line, column⟩
  ofRow_toRow _ := rfl

end Location

end HandlerWiring
