import HandlerWiring.Json.Form

/-!
# Accessibility

The declared accessibility of a type or member: its six degrees, their keywords, and the keywords
that generated code restates.
-/

namespace HandlerWiring

open Json

/-- The declared accessibility of a type or member. -/
inductive Accessibility where
  | publicAccess
  | internalAccess
  | protectedAccess
  /-- Protected and internal. -/
  | privateProtected
  /-- Protected or internal. -/
  | protectedInternal
  | privateAccess
deriving DecidableEq, Repr

namespace Accessibility

/-- The keywords of an accessibility. -/
def text : Accessibility → String
  | .publicAccess => "public"
  | .internalAccess => "internal"
  | .protectedAccess => "protected"
  | .privateProtected => "private protected"
  | .protectedInternal => "protected internal"
  | .privateAccess => "private"

/-- Whether it is one of the three protected degrees. -/
def isProtected : Accessibility → Bool
  | .protectedAccess | .privateProtected | .protectedInternal => true
  | .publicAccess | .internalAccess | .privateAccess => false

/-- The keyword before a completed method; the protected degrees are not restated. -/
def methodKeyword : Accessibility → String
  | .publicAccess => "public"
  | .internalAccess => "internal"
  | .privateAccess => "private"
  | .protectedAccess | .privateProtected | .protectedInternal => ""

/-- The keyword before a completed class; only the two degrees of a top-level type are restated. -/
def typeKeyword : Accessibility → String
  | .publicAccess => "public"
  | .internalAccess => "internal"
  | .protectedAccess | .privateProtected | .protectedInternal | .privateAccess => ""

/-- The position of an accessibility among the six names. -/
def toIndex : Accessibility → Fin 6
  | .publicAccess => 0
  | .internalAccess => 1
  | .protectedAccess => 2
  | .privateProtected => 3
  | .protectedInternal => 4
  | .privateAccess => 5

/-- The accessibility at a position. -/
def ofIndex : Fin 6 → Accessibility
  | 0 => .publicAccess
  | 1 => .internalAccess
  | 2 => .protectedAccess
  | 3 => .privateProtected
  | 4 => .protectedInternal
  | 5 => .privateAccess

/-- How an accessibility stands in documents. -/
def form : Form Accessibility where
  schema := .name
    ["public", "internal", "protected", "private_protected", "protected_internal", "private"]
  toRow := toIndex
  ofRow := ofIndex
  ofRow_toRow a := by cases a <;> rfl

end Accessibility

end HandlerWiring
