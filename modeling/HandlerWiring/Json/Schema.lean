import HandlerWiring.Dictionary
import HandlerWiring.Json.Value

/-!
# Schemas

A schema is a code for a type of values and for the documents that hold them; `Schema.El` is the
type it stands for. Records and tagged unions list their fields and cases, and a field says when
it may be left out. One writer and one reader serve every schema (`Json.Schema.Writer`,
`Json.Schema.Reader`), so what holds of all documents is said once, by recursion on the code.
-/

namespace HandlerWiring.Json

/-- When a field may be left out of a document. -/
structure Presence where
  /-- A record without the field is read as if the field had its default. -/
  recordMayLack : Bool
  /-- A list of the fields may end before this one. -/
  listMayLack : Bool
  /-- A field that has its default is not written. -/
  quiet : Bool
deriving DecidableEq, Repr

namespace Presence

/-- The field always stands in the document. -/
def required : Presence := ⟨false, false, false⟩

/-- The field has a default and is always written. -/
def defaulted : Presence := ⟨true, true, false⟩

/-- The field has a default and is written only when it differs from it. -/
def omissible : Presence := ⟨true, true, true⟩

/-- The field may be left out of a record, though not out of a list, and is written only when it
differs from its default. -/
def unlisted : Presence := ⟨true, false, true⟩

end Presence

section

-- Zero is that of core, where the algebra of Mathlib is imported as well.
attribute [local instance (2000)] Zero.ofOfNat0

/-- Places among two names are written as numerals. -/
instance neZero_two : NeZero 2 := ⟨nofun⟩

/-- Places among three names are written as numerals. -/
instance neZero_three : NeZero 3 := ⟨nofun⟩

end

mutual

/-- The code of a type of values. -/
inductive Schema where
  | text
  | flag
  /-- An unsigned number of 32 bits. -/
  | word
  /-- One of several names. -/
  | name (choices : List String)
  | list (item : Schema)
  | optional (item : Schema)
  | dictionary
  /-- A record; a closed one has no other keys than its fields. -/
  | record (title : String) (closed : Bool) (fields : Fields)
  /-- One of several records, told apart by the name under a key. -/
  | tagged (title tag : String) (cases : Cases)

/-- The fields of a record, in their order. -/
inductive Fields where
  | none
  | field (name : String) (presence : Presence) (schema : Schema) (rest : Fields)

/-- The cases of a tagged union, each with the fields beside its tag. -/
inductive Cases where
  | none
  | case (name : String) (fields : Fields) (rest : Cases)

end

mutual

/-- The type a schema stands for. -/
def Schema.El : Schema → Type
  | .text => String
  | .flag => Bool
  | .word => UInt32
  | .name choices => Fin choices.length
  | .list item => List item.El
  | .optional item => Option item.El
  | .dictionary => Dictionary
  | .record _ _ fields => fields.El
  | .tagged _ _ cases => cases.El

/-- The values of all fields, in their order. -/
def Fields.El : Fields → Type
  | .none => Unit
  | .field _ _ schema rest => schema.El × rest.El

/-- A case and the values of its fields. -/
def Cases.El : Cases → Type
  | .none => Empty
  | .case _ fields rest => fields.El ⊕ rest.El

end

/-- The names of the fields. -/
def Fields.names : Fields → List String
  | .none => []
  | .field name _ _ rest => name :: rest.names

/-- The names of the cases. -/
def Cases.names : Cases → List String
  | .none => []
  | .case name _ rest => name :: rest.names

/-- The values of no fields, if there are none. -/
def Fields.unit? : (fields : Fields) → Option fields.El
  | .none => some ()
  | .field .. => Option.none

/-- The first case, if it has no fields. -/
def Cases.default? : (cases : Cases) → Option cases.El
  | .none => Option.none
  | .case _ fields _ => fields.unit?.map .inl

/-- The default of a schema: the empty text, list or dictionary, the flag that is not set, the
first of several names, the absent option, the first case if it has no fields. -/
def Schema.default? : (schema : Schema) → Option schema.El
  | .text => some ""
  | .flag => some false
  | .word => Option.none
  | .name [] => Option.none
  | .name (_ :: _) => some ⟨0, Nat.zero_lt_succ _⟩
  | .list _ => some []
  | .optional _ => some Option.none
  | .dictionary => some Dictionary.empty
  | .record .. => Option.none
  | .tagged _ _ cases => cases.default?

/-- Whether a value of a scalar or collection schema is its default. -/
def Schema.isDefault : (schema : Schema) → schema.El → Bool
  | .text, s => String.isEmpty s
  | .flag, b => !b
  | .word, _ => false
  | .name _, i => Fin.val i == 0
  | .list _, items => List.isEmpty items
  | .optional _, item => Option.isNone item
  | .dictionary, d => Dictionary.isEmpty d
  | .record .., _ => false
  | .tagged .., _ => false

end HandlerWiring.Json
