import HandlerWiring.Decimal.Shortest

/-!
# Decimal formats

How a decimal becomes text. A format says for which magnitudes the digits are written around a
decimal point and for which with an exponent, whether a whole number keeps the ending `.0`, and
how the two values that are no numbers are spelt.
-/

namespace HandlerWiring.Decimal

/-- The choices of a format. -/
structure Format where
  /-- Whether a number whose leading digit stands for `10 ^ magnitude` is written positionally. -/
  positional : Int → Bool
  /-- Whether a whole number ends in `.0`. -/
  keepsPoint : Bool

/-- Digits around a decimal point, always positionally. -/
def plain : Format := { positional := fun _ => true, keepsPoint := false }

/-- Positional from `0.0001` up to sixteen digits before the point, else with an exponent; a
number always shows that it is not an integer. -/
def pointed : Format := { positional := fun m => -4 ≤ m && m < 16, keepsPoint := true }

/-- The digits of a number in decimal. -/
def digitsOf (n : Nat) : List Char :=
  Nat.toDigits 10 n

/-- The number that decimal digits stand for. -/
def valueOf (digits : List Char) : Nat :=
  digits.foldl (fun n c => n * 10 + (c.toNat - '0'.toNat)) 0

/-- The positional form of `digits · 10 ^ exponent`. -/
def positionalForm (keepsPoint : Bool) (digits : List Char) (exponent : Int) : List Char :=
  if 0 ≤ exponent then
    digits ++ List.replicate exponent.toNat '0' ++ (if keepsPoint then ['.', '0'] else [])
  else
    let places := (-exponent).toNat
    if places < digits.length then
      digits.take (digits.length - places) ++ '.' :: digits.drop (digits.length - places)
    else
      '0' :: '.' :: List.replicate (places - digits.length) '0' ++ digits

/-- The form with one digit before the point and a signed exponent. -/
def exponentForm (digits : List Char) (magnitude : Int) : List Char :=
  let fraction := digits.drop 1
  digits.take 1 ++ (if fraction.isEmpty then [] else '.' :: fraction) ++
    ['e', if 0 ≤ magnitude then '+' else '-'] ++ digitsOf magnitude.natAbs

/-- The text of a decimal in a format. -/
def Format.write (n : Format) (d : Scientific) : List Char :=
  let digits := digitsOf d.digits
  let magnitude : Int := d.exponent + digits.length - 1
  (if d.negative then ['-'] else []) ++
    if d.digits = 0 then positionalForm n.keepsPoint ['0'] 0
    else if n.positional magnitude then positionalForm n.keepsPoint digits d.exponent
    else exponentForm digits magnitude

/-- The text of a double precision number in a format. -/
def Format.writeBits (n : Format) (bits : UInt64) : List Char :=
  match shortest bits with
  | .undefined => "NaN".toList
  | .infinite negative => (if negative then ['-'] else []) ++ "inf".toList
  | .finite d => n.write d

end HandlerWiring.Decimal
