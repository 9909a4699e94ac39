import HandlerWiring.Json.Printer
import HandlerWiring.Json.Scan
import HandlerWiring.Json.Schema.Reader
import HandlerWiring.Json.Schema.Writer

/-!
# Forms

A form is how a type of the library stands in documents: a schema, and the two ways between the
type and the values of the schema. Going there and back changes nothing.
-/

namespace HandlerWiring.Json

/-- A schema for a type. -/
structure Form (α : Type) where
  schema : Schema
  toRow : α → schema.El
  ofRow : schema.El → α
  ofRow_toRow : ∀ a, ofRow (toRow a) = a

namespace Form

/-- The document of a value. -/
def document (form : Form α) (a : α) : Value := form.schema.write (form.toRow a)

/-- The text of a value without gaps. -/
def compact (form : Form α) (a : α) : String := (form.document a).compact

/-- The text of a value with each item on a line of its own. -/
def pretty (form : Form α) (a : α) : String := (form.document a).pretty

/-- The value that a document holds. -/
def ofDocument (form : Form α) (d : Document) : Except Fault α := do
  let row ← form.schema.read false d.root
  match d.excess with
  | none => return form.ofRow row
  | some f => .error f

/-- The value that a text holds. -/
def parse (form : Form α) (text : String) : Except Fault α :=
  form.ofDocument (.ofText text.toList)

attribute [simp] ofRow_toRow

/-- Going there and back is the identity. -/
@[simp] theorem ofRow_comp_toRow (form : Form α) : form.ofRow ∘ form.toRow = id :=
  funext form.ofRow_toRow

end Form

end HandlerWiring.Json
