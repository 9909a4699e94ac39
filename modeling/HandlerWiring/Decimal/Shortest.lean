import HandlerWiring.Decimal.Nearest

/-!
# Shortest decimals

A binary floating point number is a whole number `mantissa` times a power of two. All reals
between its two midpoints to the neighbouring floating point numbers round to it, the midpoints
themselves too if the mantissa is even. The *shortest decimal* of the number is the one with the
fewest digits in that interval; among those with equally few digits it is the nearest.

Everything is exact arithmetic on natural numbers: the interval is scaled to a fraction with a
common denominator, and for each count of digits only the two neighbours of the number on that
decimal grid are tried, since a grid that has any point in the interval has one of these there.
-/

namespace HandlerWiring.Decimal

/-- The number `digits · 10 ^ exponent`, with a sign of its own so that zero has two. -/
structure Scientific where
  negative : Bool
  digits : Nat
  exponent : Int
deriving DecidableEq, Repr

/-- What the bits of a double precision number stand for. -/
inductive Reading where
  | undefined
  | infinite (negative : Bool)
  | finite (value : Scientific)
deriving DecidableEq, Repr

/-- A fraction and the interval around it, over one denominator. -/
structure Interval where
  low : Nat
  middle : Nat
  high : Nat
  denominator : Nat
  closed : Bool

/-- The interval of the reals that round to `mantissa · 2 ^ exponent`. The gap below is half as
wide where the number is a power of two, unless it is the least exponent. -/
def interval (mantissa : Nat) (exponent : Int) (narrowBelow : Bool) : Interval :=
  let scale := if 2 ≤ exponent then 2 ^ (exponent - 2).toNat else 1
  { low := (4 * mantissa - (if narrowBelow then 1 else 2)) * scale
    middle := 4 * mantissa * scale
    high := (4 * mantissa + 2) * scale
    denominator := if exponent < 2 then 2 ^ (2 - exponent).toNat else 1
    closed := mantissa % 2 == 0 }

namespace Interval

/-- Whether `count` steps of `10 ^ step` lie inside. -/
def holds (i : Interval) (count : Nat) (step : Int) : Bool :=
  let point := count * 10 ^ step.toNat * i.denominator
  let shift := 10 ^ (-step).toNat
  if i.closed then i.low * shift ≤ point && point ≤ i.high * shift
  else i.low * shift < point && point < i.high * shift

/-- The step of `10 ^ step` at or below the middle. -/
def below (i : Interval) (step : Int) : Nat :=
  i.middle * 10 ^ (-step).toNat / (i.denominator * 10 ^ step.toNat)

/-- Twice the remainder of the middle over the step below it, and the length of a step. -/
def overshoot (i : Interval) (step : Int) : Nat × Nat :=
  let length := i.denominator * 10 ^ step.toNat
  (2 * (i.middle * 10 ^ (-step).toNat % length), length)

/-- The point of the grid `10 ^ step` inside the interval, the nearer of two; of two equally near
the even one. -/
def hit? (i : Interval) (step : Int) : Option Nat :=
  let lower := i.below step
  let (twice, length) := i.overshoot step
  let nearer := if twice < length then lower else if length < twice then lower + 1
    else if lower % 2 == 0 then lower else lower + 1
  let farther := if nearer = lower then lower + 1 else lower
  if i.holds nearer step then some nearer
  else if i.holds farther step then some farther
  else none

/-- The first hit on grids that grow finer from `step` on, at most `fuel` of them. -/
def search (i : Interval) (step : Int) : Nat → Nat × Int
  | 0 => (i.below step, step)
  | fuel + 1 =>
    match i.hit? step with
    | some count => (count, step)
    | none => i.search (step - 1) fuel

/-- The greatest exponent whose power of ten is at most the middle, given that the middle is
positive. Below one, at most `fuel` powers are tried. -/
def magnitude (i : Interval) (fuel : Nat) : Int :=
  if i.denominator ≤ i.middle then
    ((Nat.toDigits 10 (i.middle / i.denominator)).length : Int) - 1
  else
    match (List.range fuel).find? fun k : Nat => i.denominator ≤ i.middle * 10 ^ (k + 1) with
    | some k => -(k + 1 : Int)
    | none => -(fuel : Int)

end Interval

/-- A count without its trailing zeros, and the exponent that makes up for them. -/
def stripZeros (fuel : Nat) (count : Nat) (exponent : Int) : Nat × Int :=
  match fuel with
  | 0 => (count, exponent)
  | fuel + 1 =>
    if count ≠ 0 ∧ count % 10 = 0 then stripZeros fuel (count / 10) (exponent + 1)
    else (count, exponent)

/-- The shortest decimal of `mantissa · 2 ^ exponent`, for a positive mantissa. -/
def shortestPositive (mantissa : Nat) (exponent : Int) (narrowBelow : Bool) : Nat × Int :=
  let i := interval mantissa exponent narrowBelow
  let (count, step) := i.search (i.magnitude 330) 18
  stripZeros 20 count step

/-- The shortest decimal of the double precision number with these bits. -/
def shortest (bits : UInt64) : Reading :=
  let n := bits.toNat
  let negative := decide (2 ^ (63 : Nat) ≤ n)
  let biased : Nat := n / 2 ^ (52 : Nat) % 2 ^ (11 : Nat)
  let fraction : Nat := n % 2 ^ (52 : Nat)
  if biased = 2047 then
    if fraction = 0 then .infinite negative else .undefined
  else
    let mantissa := if biased = 0 then fraction else fraction + 2 ^ (52 : Nat)
    let exponent : Int := (if biased = 0 then 1 else (biased : Int)) - 1075
    if mantissa = 0 then .finite ⟨negative, 0, 0⟩
    else
      let (digits, power) := shortestPositive mantissa exponent (fraction = 0 && 1 < biased)
      .finite ⟨negative, digits, power⟩

end HandlerWiring.Decimal
