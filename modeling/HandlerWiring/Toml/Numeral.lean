import HandlerWiring.Decimal.Nearest
import HandlerWiring.Toml.Moment

/-!
# Numerals

Integers of 64 bits in base ten, sixteen, eight or two, and floating point numbers. Underscores may
stand between two digits. An integer in base ten has no leading zeros, and only it takes a sign.
-/

namespace HandlerWiring.Toml

/-- A number. -/
inductive Number where
  | integer (n : Int)
  /-- A double precision number by its bits. -/
  | real (bits : UInt64)
deriving DecidableEq, Repr

namespace Number

/-- A number in decimal. -/
def text : Number → List Char
  | .integer n => (if n < 0 then ['-'] else []) ++ Decimal.digitsOf n.natAbs
  | .real bits => Decimal.plain.writeBits bits

/-- The value of a digit in bases up to sixteen. -/
def digitValue (c : Char) : Nat :=
  if '0' ≤ c ∧ c ≤ '9' then c.toNat - '0'.toNat
  else if 'a' ≤ c ∧ c ≤ 'f' then c.toNat - 'a'.toNat + 10
  else if 'A' ≤ c ∧ c ≤ 'F' then c.toNat - 'A'.toNat + 10
  else 16

/-- The digits of a run whose first digit was read: further digits, with single underscores
between them. An underscore that no digit follows spoils the run. -/
def digitsOn (isDigit : Char → Bool) : List Char → Option (List Char × List Char)
  | [] => some ([], [])
  | c :: cs =>
    if isDigit c then (digitsOn isDigit cs).map fun (ds, rest) => (c :: ds, rest)
    else if c = '_' then
      match cs with
      | d :: _ => if isDigit d then digitsOn isDigit cs else none
      | [] => none
    else some ([], c :: cs)

/-- The digits of a run, at least one. -/
def digits (isDigit : Char → Bool) : List Char → Option (List Char × List Char)
  | [] => none
  | c :: cs => if isDigit c then digitsOn isDigit (c :: cs) else none

/-- The digits of a whole number in base ten: a zero stands alone. -/
def wholeDigits : List Char → Option (List Char × List Char)
  | '0' :: cs => some (['0'], cs)
  | cs => digits Char.isDigit cs

/-- The integer, if 64 bits hold it. -/
def bounded (n : Int) : Option Number :=
  if -(2 ^ (63 : Nat)) ≤ n ∧ n < 2 ^ (63 : Nat) then some (.integer n) else none

/-- Read the digits behind the mark of a base. -/
def readBase (base : Nat) (cs : List Char) : Option (Number × List Char) := do
  let (ds, rest) ← digits (fun c => digitValue c < base) cs
  let n ← bounded (ds.foldl (fun n c => n * base + digitValue c) 0 : Nat)
  return (n, rest)

/-- Read a sign: whether it is a minus, and the rest. -/
def readSign : List Char → Bool × List Char
  | '-' :: cs => (true, cs)
  | '+' :: cs => (false, cs)
  | cs => (false, cs)

/-- Read an exponent, if one begins here; its digits may start with zeros. -/
def readExponent : List Char → Option (Option Int × List Char)
  | [] => some (none, [])
  | c :: cs =>
    if c = 'e' ∨ c = 'E' then do
      let (negative, cs) := readSign cs
      let (ds, rest) ← digits Char.isDigit cs
      let n : Int := Decimal.valueOf ds
      return (some (if negative then -n else n), rest)
    else some (none, c :: cs)

/-- Read a fraction, if one begins here. -/
def readFraction : List Char → Option (Option (List Char) × List Char)
  | '.' :: cs => (digits Char.isDigit cs).map fun (ds, rest) => (some ds, rest)
  | cs => some (none, cs)

/-- The double precision number nearest to a numeral. What is too large above is refused, and what
is too large below is infinite. -/
def real? (negative : Bool) (ds : List Char) (exponent : Int) : Option Number :=
  let bits := Decimal.nearest negative (Decimal.valueOf ds) exponent
  if bits.toNat = Decimal.infinityBits then none else some (.real bits)

/-- Infinity and the number that is none, as they are named. -/
def readNamed (negative : Bool) : List Char → Option (Number × List Char)
  | 'i' :: 'n' :: 'f' :: rest =>
    some (.real (Decimal.signBits negative + Decimal.infinityBits).toUInt64, rest)
  | 'n' :: 'a' :: 'n' :: rest => some (.real (Decimal.infinityBits + 2 ^ (51 : Nat)).toUInt64, rest)
  | _ => none

/-- Read a number in base ten, or a named one, behind its sign. -/
def readUnsigned (negative : Bool) (cs : List Char) : Option (Number × List Char) :=
  match wholeDigits cs with
  | none => readNamed negative cs
  | some (whole, cs) => do
    let (fraction, cs) ← readFraction cs
    let (exponent, cs) ← readExponent cs
    match fraction, exponent with
    | none, none =>
      let n : Int := Decimal.valueOf whole
      return (← bounded (if negative then -n else n), cs)
    | _, _ =>
      let fraction := fraction.getD []
      return (← real? negative (whole ++ fraction) (exponent.getD 0 - fraction.length), cs)

/-- Read a number. -/
def read : List Char → Option (Number × List Char)
  | '0' :: 'x' :: cs => readBase 16 cs
  | '0' :: 'o' :: cs => readBase 8 cs
  | '0' :: 'b' :: cs => readBase 2 cs
  | cs =>
    let (negative, cs) := readSign cs
    readUnsigned negative cs

end Number

end HandlerWiring.Toml
