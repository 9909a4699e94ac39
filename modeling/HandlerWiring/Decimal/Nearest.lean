/-!
# Nearest floating point numbers

The double precision number nearest to a decimal. A decimal is a fraction of natural numbers; the
number sought is a mantissa of at most 53 bits times a power of two. Everything is exact arithmetic
on natural numbers, and of two numbers equally near the one with the even mantissa is taken. What
lies beyond the largest number becomes infinite.
-/

namespace HandlerWiring

-- Powers are those of core, where the algebra of Mathlib is imported as well.
attribute [scoped instance (2000)] instPowNat

namespace Decimal

/-- The nearest whole number to a fraction; a half goes to the even neighbour. -/
def roundedRatio (numerator denominator : Nat) : Nat :=
  let lower := numerator / denominator
  let twice := 2 * (numerator % denominator)
  if twice < denominator then lower
  else if denominator < twice then lower + 1
  else if lower % 2 = 0 then lower else lower + 1

/-- The bits of infinity. -/
def infinityBits : Nat := 0x7ff * 2 ^ (52 : Nat)

/-- The bits of the sign. -/
def signBits (negative : Bool) : Nat := if negative then 2 ^ (63 : Nat) else 0

/-- The fraction over a power of two, the fraction given by numerator and denominator. -/
def scaledRatio (numerator denominator : Nat) (power : Int) : Nat × Nat :=
  (numerator * 2 ^ (-power).toNat, denominator * 2 ^ power.toNat)

/-- The least power of two over which a fraction has at most 53 binary digits before the point, but
not below the least power of all. -/
def unitPower (numerator denominator : Nat) : Int :=
  let guess : Int := (numerator.log2 : Int) - denominator.log2 - 53
  let (n, d) := scaledRatio numerator denominator guess
  max (-1074) (if n / d < 2 ^ (53 : Nat) then guess else guess + 1)

/-- The bits of the number nearest to a positive fraction. Mantissas below `2 ^ 52` belong to the
least power; a mantissa that was rounded up to `2 ^ 53` is carried into the exponent by the
addition. -/
def nearestRatio (numerator denominator : Nat) : Nat :=
  let power := unitPower numerator denominator
  let (n, d) := scaledRatio numerator denominator power
  min infinityBits ((power + 1074).toNat * 2 ^ (52 : Nat) + roundedRatio n d)

/-- The bits of the number nearest to `digits · 10 ^ exponent`. Magnitudes far outside the range
are decided without computing the power. -/
def nearest (negative : Bool) (digits : Nat) (exponent : Int) : UInt64 :=
  let magnitude : Int := (Nat.toDigits 10 digits).length + exponent
  let bits :=
    if digits = 0 ∨ magnitude < -330 then 0
    else if 310 < magnitude then infinityBits
    else nearestRatio (digits * 10 ^ exponent.toNat) (10 ^ (-exponent).toNat)
  (signBits negative + bits).toUInt64

end Decimal

end HandlerWiring
