/-!
# JSON values

A document as data, without the places and the spelling of its text. The members of a record keep
the order in which they stand, repetitions included. A number is an integer when its text has
neither fraction nor exponent and fits 64 bits; any other number is kept by the bits of its double
precision value.
-/

namespace HandlerWiring.Json

/-- A number of a document. -/
inductive Number where
  | integer (value : Int)
  | real (bits : UInt64)
deriving DecidableEq, Repr

/-- A document or a part of one. -/
inductive Value where
  | null
  | boolean (value : Bool)
  | number (value : Number)
  | text (value : String)
  | list (items : List Value)
  | record (members : List (String × Value))
deriving Repr

namespace Value

/-- A text value. -/
def ofText (s : String) : Value := .text s

/-- A natural number as a value. -/
def ofNat (n : Nat) : Value := .number (.integer n)

end Value

end HandlerWiring.Json
