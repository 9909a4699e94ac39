import HandlerWiring.Decimal.Format
import HandlerWiring.Json.Place
import HandlerWiring.Text.Quoted

/-!
# Faults of a document

A fault has a cause and, unless it was found in a part of the document that had been set aside,
a place. The first sixteen causes are against the grammar of JSON; the others are against the
shape that a reader expects of a well-formed document.
-/

namespace HandlerWiring.Json

/-- What a reader found where it expected something else. -/
inductive Found where
  | null
  | boolean (value : Bool)
  | integer (value : Int)
  | real (bits : UInt64)
  | text (value : String)
  | list
  | record
deriving DecidableEq, Repr

/-- How a found thing is named. -/
def Found.describe : Found → String
  | .null => "null"
  | .boolean b => "boolean `" ++ toString b ++ "`"
  | .integer n => "integer `" ++ toString n ++ "`"
  | .real bits => "floating point `" ++ String.ofList (Decimal.pointed.writeBits bits) ++ "`"
  | .text s => "string " ++ Text.quoted s
  | .list => "sequence"
  | .record => "map"

/-- What is wrong. -/
inductive Cause where
  | endInList
  | endInRecord
  | endInText
  | endInValue
  | noColon
  | noListSeparator
  | noRecordSeparator
  | misspeltWord
  | noValue
  | badEscape
  | badNumber
  | hugeNumber
  | controlCharacter
  | keyNotText
  | loneSurrogate
  | trailingComma
  | trailingCharacters
  | brokenPair
  | tooDeep
  | missingField (name : String)
  | unknownField (name : String) (known : List String)
  | duplicateField (name : String)
  | unknownName (name : String) (known : List String)
  | wrongKind (found : Found) (expected : String)
  | wrongValue (value : Int) (expected : String)
  | wrongLength (length : Nat) (expected : String)
deriving DecidableEq, Repr

/-- A name between grave accents. -/
def accented (name : String) : String := "`" ++ name ++ "`"

/-- The names a reader would have taken. -/
def alternatives : List String → String
  | [] => ""
  | [a] => accented a
  | [a, b] => accented a ++ " or " ++ accented b
  | names => "one of " ++ String.intercalate ", " (names.map accented)

/-- The wording of a cause. -/
def Cause.message : Cause → String
  | .endInList => "EOF while parsing a list"
  | .endInRecord => "EOF while parsing an object"
  | .endInText => "EOF while parsing a string"
  | .endInValue => "EOF while parsing a value"
  | .noColon => "expected `:`"
  | .noListSeparator => "expected `,` or `]`"
  | .noRecordSeparator => "expected `,` or `\x7d`"
  | .misspeltWord => "expected ident"
  | .noValue => "expected value"
  | .badEscape => "invalid escape"
  | .badNumber => "invalid number"
  | .hugeNumber => "number out of range"
  | .controlCharacter => "control character (\\u0000-\\u001F) found while parsing a string"
  | .keyNotText => "key must be a string"
  | .loneSurrogate => "lone leading surrogate in hex escape"
  | .trailingComma => "trailing comma"
  | .trailingCharacters => "trailing characters"
  | .brokenPair => "unexpected end of hex escape"
  | .tooDeep => "recursion limit exceeded"
  | .missingField name => "missing field " ++ accented name
  | .unknownField name [] => "unknown field " ++ accented name ++ ", there are no fields"
  | .unknownField name known =>
    "unknown field " ++ accented name ++ ", expected " ++ alternatives known
  | .duplicateField name => "duplicate field " ++ accented name
  | .unknownName name [] => "unknown variant " ++ accented name ++ ", there are no variants"
  | .unknownName name known =>
    "unknown variant " ++ accented name ++ ", expected " ++ alternatives known
  | .wrongKind found expected => "invalid type: " ++ found.describe ++ ", expected " ++ expected
  | .wrongValue value expected =>
    "invalid value: " ++ (Found.integer value).describe ++ ", expected " ++ expected
  | .wrongLength length expected =>
    "invalid length " ++ toString length ++ ", expected " ++ expected

/-- A cause and where it was found. -/
structure Fault where
  cause : Cause
  place : Option Place
deriving DecidableEq, Repr

namespace Fault

/-- A fault at a place. -/
def atPlace (cause : Cause) (p : Place) : Fault := ⟨cause, some p⟩

/-- A fault without a place. -/
def unplaced (cause : Cause) : Fault := ⟨cause, none⟩

/-- A fault that has no place yet is given one. -/
def placed (p : Place) (f : Fault) : Fault := ⟨f.cause, some (f.place.getD p)⟩

/-- The wording of a fault: its cause, and its line and column if it has a place. -/
def message (f : Fault) : String :=
  match f.place with
  | none => f.cause.message
  | some p => f.cause.message ++ " at line " ++ toString p.line ++ " column " ++ toString p.column

end Fault

end HandlerWiring.Json
