import HandlerWiring.Json.Numeral
import HandlerWiring.Json.Place
import HandlerWiring.Json.Quotation

/-!
# The grammar of documents

What a text denotes, said without the scanner: which characters make a document, and which value.
Gaps may stand around every token, and a character of a quoted text may be spelt in any of the
ways the grammar has for it.

Two things that the grammar allows have no value here: an escape of a surrogate without its other
half, and a number that is too large. A text with one of them denotes none.

Nothing is said of texts outside the grammar.
-/

namespace HandlerWiring.Json

/-- Only characters that may stand between tokens. -/
def IsGap (cs : List Char) : Prop := ∀ c ∈ cs, Cursor.isGap c = true

instance : DecidablePred IsGap := List.decidableBAll (Cursor.isGap · = true)

/-- What stands in front of an item or a member: a comma, unless it is the first. -/
def separator (first : Bool) : List Char := if first then [] else [',']

namespace Quotation

/-- A text goes on with the escape of a trailing surrogate. -/
def OpensTrailing (cs : List Char) : Prop :=
  ∃ a b c d n rest,
    cs = '\\' :: 'u' :: a :: b :: c :: d :: rest ∧ quad? a b c d = some n ∧ isTrailing n = true

/-- The characters that stand between two quotes for those of a text. -/
inductive Denotes : List Char → Option (List Char) → Prop
  | done : Denotes [] (some [])
  /-- The character itself. -/
  | plain {c : Char} {cs : List Char} {s : Option (List Char)} :
    c ≠ '"' → c ≠ '\\' → ¬c.toNat < 0x20 → Denotes cs s → Denotes (c :: cs) (s.map (c :: ·))
  /-- An escape of one letter. -/
  | short {e c : Char} {cs : List Char} {s : Option (List Char)} :
    short? e = some c → Denotes cs s → Denotes ('\\' :: e :: cs) (s.map (c :: ·))
  /-- The number of a character up to `0xffff`, in hexadecimal digits of either case. -/
  | quad {a b c d : Char} {n : Nat} {cs : List Char} {s : Option (List Char)} :
    quad? a b c d = some n → isTrailing n = false → isLeading n = false → Denotes cs s →
      Denotes ('\\' :: 'u' :: a :: b :: c :: d :: cs) (s.map (Char.ofNat n :: ·))
  /-- The two surrogates of a character beyond. -/
  | pair {a b c d a' b' c' d' : Char} {n m : Nat} {cs : List Char} {s : Option (List Char)} :
    quad? a b c d = some n → isTrailing n = false → isLeading n = true →
      quad? a' b' c' d' = some m → isTrailing m = true → Denotes cs s →
      Denotes ('\\' :: 'u' :: a :: b :: c :: d :: '\\' :: 'u' :: a' :: b' :: c' :: d' :: cs)
        (s.map (pairUp n m :: ·))
  /-- A trailing surrogate with no leading one before it. -/
  | trailing {a b c d : Char} {n : Nat} {cs : List Char} {s : Option (List Char)} :
    quad? a b c d = some n → isTrailing n = true → Denotes cs s →
      Denotes ('\\' :: 'u' :: a :: b :: c :: d :: cs) none
  /-- A leading surrogate with no trailing one behind it. -/
  | leading {a b c d : Char} {n : Nat} {cs : List Char} {s : Option (List Char)} :
    quad? a b c d = some n → isTrailing n = false → isLeading n = true → ¬OpensTrailing cs →
      Denotes cs s → Denotes ('\\' :: 'u' :: a :: b :: c :: d :: cs) none

end Quotation

namespace Numeral

/-- One digit or more. -/
structure AreDigits (cs : List Char) : Prop where
  nonempty : cs ≠ []
  isDigit : ∀ c ∈ cs, c.isDigit = true

/-- The digits before the point: a zero alone, or digits that start with another one. -/
structure AreWhole (cs : List Char) : Prop extends AreDigits cs where
  noLeadingZero : cs = ['0'] ∨ cs.head? ≠ some '0'

/-- The point and the digits behind it, or nothing. -/
inductive FractionDenotes : List Char → List Char → Prop
  | nothing : FractionDenotes [] []
  | point {digits : List Char} : AreDigits digits → FractionDenotes ('.' :: digits) digits

/-- The letter, the sign and the digits of an exponent, or nothing. -/
inductive ExponentDenotes : List Char → Option (List Char × List Char) → Prop
  | nothing : ExponentDenotes [] none
  | power {e : Char} {sign digits : List Char} :
    e = 'e' ∨ e = 'E' → sign = [] ∨ sign = ['+'] ∨ sign = ['-'] → AreDigits digits →
      ExponentDenotes (e :: (sign ++ digits)) (some (sign, digits))

/-- The characters of a numeral. -/
inductive Denotes : List Char → Numeral → Prop
  | mk (negative : Bool) {whole fractionText fraction exponentText : List Char}
      {exponent : Option (List Char × List Char)} :
    AreWhole whole → FractionDenotes fractionText fraction →
      ExponentDenotes exponentText exponent →
      Denotes ((if negative then ['-'] else []) ++ (whole ++ (fractionText ++ exponentText)))
        ⟨negative, whole, fraction, exponent⟩

end Numeral

mutual

/-- The characters of a value, without gaps around it. -/
inductive Denotes : List Char → Option Value → Prop
  | null : Denotes "null".toList (some .null)
  | boolean (b : Bool) :
    Denotes (if b then "true".toList else "false".toList) (some (.boolean b))
  | number {cs : List Char} {numeral : Numeral} :
    numeral.Denotes cs → Denotes cs (numeral.value.toOption.map .number)
  | text {cs : List Char} {s : Option (List Char)} :
    Quotation.Denotes cs s → Denotes ('"' :: (cs ++ ['"'])) (s.map fun s => .text (.ofList s))
  | list {cs : List Char} {vs : Option (List Value)} :
    ItemsDenote true cs vs → Denotes ('[' :: cs) (vs.map .list)
  | record {cs : List Char} {ms : Option (List (String × Value))} :
    EntriesDenote true cs ms → Denotes ('\x7b' :: cs) (ms.map .record)

/-- The characters of a list from some point on; `first` tells that no item stands before it. -/
inductive ItemsDenote : Bool → List Char → Option (List Value) → Prop
  | close {first : Bool} {gap : List Char} :
    IsGap gap → ItemsDenote first (gap ++ [']']) (some [])
  | more {first : Bool} {before behind item rest : List Char} {v : Option Value}
      {vs : Option (List Value)} :
    IsGap before → IsGap behind → Denotes item v → ItemsDenote false rest vs →
      ItemsDenote first (before ++ (separator first ++ (behind ++ (item ++ rest))))
        (do return (← v) :: (← vs))

/-- The characters of a record from some point on; `first` tells that no member stands before
it. -/
inductive EntriesDenote : Bool → List Char → Option (List (String × Value)) → Prop
  | close {first : Bool} {gap : List Char} :
    IsGap gap → EntriesDenote first (gap ++ ['\x7d']) (some [])
  | more {first : Bool} {before behind key beforeColon behindColon value rest : List Char}
      {k : Option (List Char)} {v : Option Value} {ms : Option (List (String × Value))} :
    IsGap before → IsGap behind → Quotation.Denotes key k → IsGap beforeColon →
      IsGap behindColon → Denotes value v → EntriesDenote false rest ms →
      EntriesDenote first
        (before ++ (separator first ++ (behind ++ ('"' :: (key ++ ('"' ::
          (beforeColon ++ (':' :: (behindColon ++ (value ++ rest))))))))))
        (do return (.ofList (← k), ← v) :: (← ms))

end

/-- A text denotes a value, or none. -/
inductive TextDenotes : String → Option Value → Prop
  | mk {before cs behind : List Char} {v : Option Value} :
    IsGap before → IsGap behind → Denotes cs v →
      TextDenotes (.ofList (before ++ (cs ++ behind))) v

end HandlerWiring.Json
