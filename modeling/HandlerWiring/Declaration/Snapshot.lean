import HandlerWiring.Declaration.Candidate
import HandlerWiring.Declaration.Method

/-!
# Declaration snapshots

What the host exports for one generation pass: the types that may be handlers, the methods that
may be extension points, and the options from which settings are resolved.
-/

namespace HandlerWiring

open Json

/-- Everything one generation pass reads from the host. -/
structure Snapshot where
  types : List Candidate
  methods : List Method
  options : Dictionary
deriving DecidableEq

namespace Snapshot

/-- The snapshot without declarations and options. -/
def empty : Snapshot := ⟨[], [], .empty⟩

/-- The snapshot with one more type. -/
def addType (s : Snapshot) (c : Candidate) : Snapshot := { s with types := s.types ++ [c] }

/-- The snapshot with one more method. -/
def addMethod (s : Snapshot) (m : Method) : Snapshot := { s with methods := s.methods ++ [m] }

/-- The snapshot with an option written. -/
def setOption (s : Snapshot) (key value : String) : Snapshot :=
  { s with options := s.options.insert key value }

/-- The methods that carry the marker, in declaration order. -/
def markedMethods (s : Snapshot) : List Method := s.methods.filter Method.isExtensionPoint

/-- How a snapshot stands in documents. -/
def form : Form Snapshot where
  schema := .record "DeclarationSet" true <|
    .field "types" .defaulted (.list Candidate.form.schema) <|
    .field "methods" .defaulted (.list Method.form.schema) <|
    .field "options" .omissible .dictionary .none
  toRow s := (s.types.map Candidate.form.toRow, s.methods.map Method.form.toRow, s.options, ())
  ofRow := fun (types, methods, options, ()) =>
    ⟨List.map Candidate.form.ofRow types, List.map Method.form.ofRow methods, options⟩
  ofRow_toRow s := by simp

end Snapshot

end HandlerWiring
