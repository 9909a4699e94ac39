import HandlerWiring.Text.Basic

/-!
# Paths

A path as it is written: pieces between slashes. A path that starts with a slash leads from the
root, any other from the working directory. Empty pieces and single dots between others stand for
nothing.
-/

namespace HandlerWiring

/-- A path as it is written. -/
structure Path where
  text : String
deriving DecidableEq, Repr

namespace Path

/-- The pieces of a path. -/
def pieces (p : Path) : List String := (Text.piecesAt '/' p.text.toList).map String.ofList

/-- The path with these pieces. -/
def ofPieces (pieces : List String) : Path := ⟨String.intercalate "/" pieces⟩

/-- Whether a path leads from the root. -/
def isAbsolute (p : Path) : Bool := "/".toList.isPrefixOf p.text.toList

/-- Whether a path ends in a slash. -/
def endsInSlash (p : Path) : Bool := p.text.toList.getLast? == some '/'

/-- A name inside a directory. The name is meant to be relative. -/
def join (directory : Path) (name : String) : Path :=
  if directory.text.isEmpty || directory.endsInSlash then ⟨directory.text ++ name⟩
  else ⟨directory.text ++ "/" ++ name⟩

/-- Whether a piece stands for nothing. -/
def isIdle (piece : String) : Bool := piece.isEmpty || piece == "."

/-- Pieces, the last one first, without the idle ones at the end of the path. The first piece of
the path stays. -/
def withoutIdleEnd : List String → List String
  | [] => []
  | [first] => [first]
  | last :: rest => if isIdle last then withoutIdleEnd rest else last :: rest

/-- The path with some pieces, the last one first. An empty first piece is the root. -/
def ofReversed (pieces : List String) : Path :=
  if pieces = [""] then ⟨"/"⟩ else ofPieces pieces.reverse

/-- The directories above a path that is given by its pieces, the last one first. -/
def above : Nat → List String → List Path
  | 0, _ => []
  | fuel + 1, pieces =>
    match withoutIdleEnd pieces with
    | _ :: first :: rest =>
      let parent := withoutIdleEnd (first :: rest)
      ofReversed parent :: above fuel parent
    | _ => []

/-- A path and the directories above it as far as the path names them, the innermost first. The
empty path names none. -/
def lineage (p : Path) : List Path :=
  if p.text.isEmpty then [] else p :: above p.pieces.length p.pieces.reverse

end Path

end HandlerWiring
