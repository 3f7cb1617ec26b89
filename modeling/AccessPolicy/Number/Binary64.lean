/-!
# Binary64 numbers

A finite binary64 number is kept as a sign, an integer significand and a power of two, so that
reading and printing are exact integer arithmetic. Reading rounds to the nearest number, a tie to
the even significand.
-/

namespace AccessPolicy

namespace Number

/-- The finite number `(-1)^negative * significand * 2^exponent`. The exponent is at least `-1074`,
the significand is below `2^53`, and it is at least `2^52` unless the exponent is `-1074`. -/
structure Binary64 where
  /-- Whether the sign is negative; zero has both signs. -/
  negative : Bool
  /-- The integer factor. -/
  significand : Nat
  /-- The power of two. -/
  exponent : Int
  deriving DecidableEq, Repr

/-- The quotient rounded to the nearest integer, a tie to the even one. -/
def roundedQuotient (numerator denominator : Nat) : Nat :=
  let quotient := numerator / denominator
  let twice := 2 * (numerator % denominator)
  if twice < denominator then quotient
  else if denominator < twice then quotient + 1
  else quotient + quotient % 2

namespace Binary64

/-- Zero with the given sign. -/
def zero (negative : Bool) : Binary64 := ⟨negative, 0, -1074⟩

/-- The least exponent. -/
def leastExponent : Int := -1074

/-- The greatest exponent. -/
def greatestExponent : Int := 971

/-- The numerator and denominator of a quotient divided by a power of two. -/
def scaled (numerator denominator : Nat) (exponent : Int) : Nat × Nat :=
  (numerator * Nat.pow 2 (-exponent).toNat, denominator * Nat.pow 2 exponent.toNat)

/-- The number nearest to a positive quotient, `none` beyond the greatest number. -/
def ofQuotient? (negative : Bool) (numerator denominator : Nat) : Option Binary64 :=
  let estimate : Int := (numerator.log2 : Int) - denominator.log2 - 52
  let (above, below) := scaled numerator denominator estimate
  let fitted := if above / below < Nat.pow 2 52 then estimate - 1 else estimate
  let exponent := max fitted leastExponent
  let (above, below) := scaled numerator denominator exponent
  let significand := roundedQuotient above below
  let (significand, exponent) :=
    if significand = Nat.pow 2 53 then (Nat.pow 2 52, exponent + 1) else (significand, exponent)
  if greatestExponent < exponent then none else some ⟨negative, significand, exponent⟩

/-- The number nearest to `digits * 10^exponent`, `none` beyond the greatest number. Exponents far
outside the range are decided from the count of digits alone. -/
def ofDecimal? (negative : Bool) (digits : Nat) (exponent : Int) : Option Binary64 :=
  if digits = 0 then some (zero negative)
  else
    let magnitude : Int := (Nat.toDigits 10 digits).length + exponent
    if 310 < magnitude then none
    else if magnitude < -330 then some (zero negative)
    else ofQuotient? negative (digits * Nat.pow 10 exponent.toNat) (Nat.pow 10 (-exponent).toNat)

/-- Whether the value is an integer. -/
def isIntegral (number : Binary64) : Bool :=
  0 ≤ number.exponent || number.significand % Nat.pow 2 (-number.exponent).toNat == 0

/-- The magnitude without its fractional part. -/
def wholePart (number : Binary64) : Nat :=
  number.significand * Nat.pow 2 number.exponent.toNat / Nat.pow 2 (-number.exponent).toNat

end Binary64

end Number

end AccessPolicy
