import HandlerWiring.Declaration.Interface

/-!
# Handler shapes

The three generic interfaces whose implementations are registered. A closed interface has a shape
when it names the definition of that shape and has as many type arguments; the arguments
themselves do not matter.
-/

namespace HandlerWiring

open Json

/-- A recognised handler interface. -/
inductive Shape where
  /-- Answers a query with a response. -/
  | query
  /-- Carries out a command. -/
  | command
  /-- Carries out a command and answers with a response. -/
  | commandResponse
deriving DecidableEq, Repr

namespace Shape

/-- The shapes, in the order in which they are tried. -/
def all : List Shape := [.query, .command, .commandResponse]

/-- The qualified name of the generic definition. -/
def definition : Shape → String
  | .query => "CQRSToolkit.IQueryHandler"
  | .command => "CQRSToolkit.ICommandHandler"
  | .commandResponse => "CQRSToolkit.ICommandResponseHandler"

/-- The number of type parameters. -/
def arity : Shape → Nat
  | .query => 2
  | .command => 1
  | .commandResponse => 2

/-- The definition with its type parameters. -/
def signature : Shape → String
  | .query => "CQRSToolkit.IQueryHandler<TQuery, TResponse>"
  | .command => "CQRSToolkit.ICommandHandler<TCommand>"
  | .commandResponse => "CQRSToolkit.ICommandResponseHandler<TCommand, TResponse>"

/-- Whether a closed interface has the shape. -/
def fits (s : Shape) (i : Interface) : Bool :=
  i.definitionName == s.definition && i.arity == s.arity

/-- The shape of a closed interface, if it has one. -/
def of? (i : Interface) : Option Shape := all.find? (·.fits i)

/-- The position of a shape among the three names. -/
def toIndex : Shape → Fin 3
  | .query => 0
  | .command => 1
  | .commandResponse => 2

/-- The shape at a position. -/
def ofIndex : Fin 3 → Shape
  | 0 => .query
  | 1 => .command
  | 2 => .commandResponse

/-- How a shape stands in documents. -/
def form : Form Shape where
  schema := .name ["query_handler", "command_handler", "command_response_handler"]
  toRow := toIndex
  ofRow := ofIndex
  ofRow_toRow s := by cases s <;> rfl

end Shape

end HandlerWiring
