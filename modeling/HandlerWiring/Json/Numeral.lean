import HandlerWiring.Json.Fault
import HandlerWiring.Json.Value

/-!
# Numerals

The grammar of numbers and the value of one. A numeral without fraction and exponent is an
integer as long as it fits 64 bits. Any other numeral is real: its digits are taken into a 64 bit
significand while they fit, the remaining power of ten is applied in one multiplication or
division, in steps of `10 ^ 308` where it is smaller than that, and a result beyond the largest
double precision number is refused.

Whoever reads a number and whoever skips over one agree on the grammar but not on the cause where
the text ends too early, so a broken numeral has two faults.
-/

namespace HandlerWiring.Json

/-- The parts of a numeral. The fraction is empty where there is none. -/
structure Numeral where
  negative : Bool
  whole : List Char
  fraction : List Char
  /-- The sign as written and the digits of the exponent. -/
  exponent : Option (List Char × List Char)
deriving DecidableEq, Repr

/-- The faults of a broken numeral: for its reader and for who skips over it. -/
structure BrokenNumeral where
  whenRead : Fault
  whenSkipped : Fault

namespace Numeral

/-- A cursor moved over characters that take one byte each. -/
def forward (p : Place) (taken rest : List Char) : Cursor :=
  ⟨⟨p.line, p.column + taken.length⟩, rest⟩

/-- The same fault for both. -/
def broken (f : Fault) : Except BrokenNumeral α := .error ⟨f, f⟩

/-- No digit stands where one has to. A missing digit at the end of the text is an early end to
the reader. -/
def digitless (c : Cursor) : Except BrokenNumeral α :=
  match c.rest with
  | [] => .error ⟨.atPlace .endInValue c.place, .atPlace .badNumber c.place⟩
  | _ => broken (.atPlace .badNumber c.facing)

/-- The digits at a cursor, at least one. -/
def scanDigits (c : Cursor) : Except BrokenNumeral (List Char × Cursor) :=
  let digits := c.rest.takeWhile Char.isDigit
  if digits.isEmpty then digitless c
  else .ok (digits, forward c.place digits (c.rest.dropWhile Char.isDigit))

/-- The digits before the point. A zero stands alone. -/
def scanWhole (c : Cursor) : Except BrokenNumeral (List Char × Cursor) :=
  match c.rest with
  | '0' :: rest =>
    let next := forward c.place ['0'] rest
    match rest with
    | d :: _ => if d.isDigit then broken (.atPlace .badNumber next.facing) else .ok (['0'], next)
    | [] => .ok (['0'], next)
  | _ => scanDigits c

/-- The digits behind the point, if there is one. -/
def scanFraction (c : Cursor) : Except BrokenNumeral (List Char × Cursor) :=
  match c.rest with
  | '.' :: rest => scanDigits (forward c.place ['.'] rest)
  | _ => .ok ([], c)

/-- The sign of an exponent as written. -/
def scanSign (c : Cursor) : List Char × Cursor :=
  match c.rest with
  | '+' :: rest => (['+'], forward c.place ['+'] rest)
  | '-' :: rest => (['-'], forward c.place ['-'] rest)
  | _ => ([], c)

/-- The exponent, if there is one. -/
def scanExponent (c : Cursor) :
    Except BrokenNumeral (Option (List Char × List Char) × Cursor) :=
  match c.rest with
  | e :: rest =>
    if e = 'e' ∨ e = 'E' then do
      let (sign, c) := scanSign (forward c.place [e] rest)
      let (digits, c) ← scanDigits c
      return (some (sign, digits), c)
    else .ok (none, c)
  | [] => .ok (none, c)

/-- The numeral at a cursor, which faces a minus sign or a digit. -/
def scan (c : Cursor) : Except BrokenNumeral (Numeral × Cursor) := do
  let (negative, c) := match c.rest with
    | '-' :: rest => (true, forward c.place ['-'] rest)
    | _ => (false, c)
  let (whole, c) ← scanWhole c
  let (fraction, c) ← scanFraction c
  let (exponent, c) ← scanExponent c
  return (⟨negative, whole, fraction, exponent⟩, c)

/-- The value of a digit. -/
def digitValue (d : Char) : Nat := d.toNat - '0'.toNat

/-- A significand with digits appended as long as it stays below a bound, and the digits that were
not appended. -/
def append (bound : Nat) (significand : Nat) : List Char → Nat × List Char
  | [] => (significand, [])
  | d :: ds =>
    let next := significand * 10 + digitValue d
    if next < bound then append bound next ds else (significand, d :: ds)

/-- A power of ten in double precision. -/
def powerOfTen (k : Nat) : Float := Float.ofScientific 1 false k

/-- A number times a power of ten, none where that is beyond every double precision number. -/
def scaled (fuel : Nat) (x : Float) (power : Int) : Option Float :=
  if power.natAbs ≤ 308 then
    if 0 ≤ power then
      let product := x * powerOfTen power.natAbs
      if product.isInf then none else some product
    else some (x / powerOfTen power.natAbs)
  else if x == 0 then some x
  else if 0 ≤ power then none
  else match fuel with
    | 0 => some 0
    | fuel + 1 => scaled fuel (x / powerOfTen 308) (power + 308)

/-- The real number with a sign. -/
def real (negative : Bool) (x : Float) : Number :=
  .real (if negative then -x else x).toBits

/-- The number of characters before the digits of the exponent. -/
def lengthToExponent (n : Numeral) : Nat :=
  (if n.negative then 1 else 0) + n.whole.length +
    (if n.fraction.isEmpty then 0 else 1 + n.fraction.length) +
    match n.exponent with
    | none => 0
    | some (sign, _) => 1 + sign.length

/-- The number of characters of a numeral. -/
def length (n : Numeral) : Nat :=
  n.lengthToExponent + match n.exponent with
    | none => 0
    | some (_, digits) => digits.length

/-- The value of a real numeral, or how many of its characters were read when it turned out to be
too large. -/
def realValue (n : Numeral) : Except Nat Number :=
  let (wholePart, dropped) := append (2 ^ (64 : Nat)) 0 n.whole
  let (significand, unused) := append (2 ^ (64 : Nat)) wholePart n.fraction
  let point : Int := (dropped.length : Int) - (n.fraction.length - unused.length : Nat)
  let finish (power : Int) : Except Nat Number :=
    match scaled 4 significand.toUInt64.toFloat power with
    | none => .error n.length
    | some x => .ok (real n.negative x)
  match n.exponent with
  | none => finish point
  | some (sign, digits) =>
    let (power, excess) := append (2 ^ (31 : Nat)) 0 digits
    if excess.isEmpty then finish (if sign = ['-'] then point - power else point + power)
    else if significand ≠ 0 ∧ sign ≠ ['-'] then
      .error (n.lengthToExponent + (digits.length - excess.length) + 1)
    else .ok (real n.negative 0)

/-- The value of a numeral, or how many of its characters were read when it turned out to be too
large. A negative zero is real, since the integers have no such number. -/
def value (n : Numeral) : Except Nat Number :=
  let (whole, dropped) := append (2 ^ (64 : Nat)) 0 n.whole
  if dropped.isEmpty ∧ n.fraction.isEmpty ∧ n.exponent.isNone then
    if ¬n.negative then .ok (.integer whole)
    else if 0 < whole ∧ whole ≤ 2 ^ (63 : Nat) then .ok (.integer (-(whole : Int)))
    else .ok (real true whole.toUInt64.toFloat)
  else n.realValue

end Numeral

end HandlerWiring.Json
