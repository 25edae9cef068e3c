import SyntheticRows.Text.Numeral
/-!
Binary fractions with a rounding to a number of significant bits and a decimal form with a fixed
number of places. Both roundings go to the nearest value, a tie to the even one.
-/

namespace SyntheticRows

/-- The quotient of two natural numbers, rounded to the nearest; a tie goes to the even one. -/
def divideToNearest (numerator denominator : Nat) : Nat :=
  let quotient := numerator / denominator
  let twice := 2 * (numerator % denominator)
  if twice > denominator || (twice == denominator && quotient % 2 == 1) then quotient + 1
  else quotient

/-- The number `mantissa / 2 ^ scale`. -/
structure BinaryFraction where
  mantissa : Int
  scale : Nat
  deriving DecidableEq, Repr

namespace BinaryFraction

def bitLength (n : Nat) : Nat :=
  if n = 0 then 0 else n.log2 + 1

/-- The nearest number with at most `bits` significant bits. -/
def roundTo (bits : Nat) (number : BinaryFraction) : BinaryFraction :=
  let unit := Nat.pow 2 (bitLength number.mantissa.natAbs - bits)
  { number with
    mantissa := number.mantissa.sign * (divideToNearest number.mantissa.natAbs unit * unit : Nat) }

def addInteger (number : BinaryFraction) (n : Int) : BinaryFraction :=
  { number with mantissa := number.mantissa + n * Int.ofNat (Nat.pow 2 number.scale) }

/-- The decimal form with `places` digits after the point; `places` is not zero. -/
def toFixed (places : Nat) (number : BinaryFraction) : String :=
  let unit := Nat.pow 10 places
  let digits := divideToNearest (number.mantissa.natAbs * unit) (Nat.pow 2 number.scale)
  let sign := if number.mantissa < 0 then ['-'] else []
  String.ofList (sign ++ Text.decimal (digits / unit) ++
    '.' :: Text.paddedDecimal places (digits % unit))

end BinaryFraction

end SyntheticRows
