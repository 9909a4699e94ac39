import HandlerWiring.Json.Schema

/-!
# Writing values of a schema

A record is written with its fields in the order of the schema, those left out that are quiet and
have their default. A tagged union is written as a record with the tag first.
-/

namespace HandlerWiring.Json

mutual

/-- The document of a value. -/
def Schema.write : (schema : Schema) → schema.El → Value
  | .text, s => .text s
  | .flag, b => .boolean b
  | .word, n => .number (.integer (UInt32.toNat n))
  | .name choices, i => .text (choices.get i)
  | .list item, items => .list (List.map item.write items)
  | .optional item, x => Option.elim x .null item.write
  | .dictionary, d => .record (d.entries.map fun entry => (entry.1, .text entry.2))
  | .record _ _ fields, row => .record (fields.write row)
  | .tagged _ tag cases, x => .record (cases.write tag x)
termination_by structural schema => schema

/-- The members of a record. -/
def Fields.write : (fields : Fields) → fields.El → List (String × Value)
  | .none, _ => []
  | .field name presence schema rest, (x, row) =>
    if presence.quiet && schema.isDefault x then rest.write row
    else (name, schema.write x) :: rest.write row
termination_by structural fields => fields

/-- The members of a tagged record. -/
def Cases.write (tag : String) : (cases : Cases) → cases.El → List (String × Value)
  | .none, x => nomatch x
  | .case name fields _, .inl row => (tag, .text name) :: fields.write row
  | .case _ _ rest, .inr x => rest.write tag x
termination_by structural cases => cases

end

end HandlerWiring.Json
