import AccessPolicy.Number.Binary64

/-!
# Shortest decimal digits

The shortest decimal of a binary64 number has the fewest digits among the decimals that read back
as that number, and is the nearest of those. The search looks, for one digit, two digits and so
on, at the two neighbours of the value on that decimal grid.
-/

namespace AccessPolicy

namespace Number

/-- Which of two equally near decimals is taken. -/
inductive Tie where
  /-- The one with the even last digit. -/
  | toEven
  /-- The greater one. -/
  | up
  deriving DecidableEq, Repr

/-- The decimal `digits * 10^exponent`. -/
structure Decimal where
  /-- The integer factor. -/
  digits : Nat
  /-- The power of ten. -/
  exponent : Int
  deriving DecidableEq, Repr

namespace Decimal

/-- The digits as characters, most significant first. -/
def characters (decimal : Decimal) : List Char := Nat.toDigits 10 decimal.digits

/-- The decimal without trailing zeros in its integer factor. At most `fuel` zeros are removed. -/
def trimmed : Nat → Decimal → Decimal
  | 0, decimal => decimal
  | fuel + 1, decimal =>
    if decimal.digits ≠ 0 ∧ decimal.digits % 10 = 0 then
      trimmed fuel ⟨decimal.digits / 10, decimal.exponent + 1⟩
    else decimal

end Decimal

/-- A positive value together with the interval of reals that round to it, all over one
denominator. -/
structure RoundingInterval where
  /-- Numerator of the lower end. -/
  lower : Nat
  /-- Numerator of the value. -/
  value : Nat
  /-- Numerator of the upper end. -/
  upper : Nat
  /-- The common denominator. -/
  denominator : Nat
  /-- Whether the ends round to the value too. -/
  closed : Bool

namespace RoundingInterval

/-- The interval of a number that is not zero. The gap below a power of two is half as wide. -/
def ofBinary64 (number : Binary64) : RoundingInterval :=
  let unit := Nat.pow 2 number.exponent.toNat
  let value := 4 * number.significand * unit
  let narrow := number.significand = Nat.pow 2 52 ∧ Binary64.leastExponent < number.exponent
  { lower := value - if narrow then unit else 2 * unit
    value := value
    upper := value + 2 * unit
    denominator := 4 * Nat.pow 2 (-number.exponent).toNat
    closed := number.significand % 2 == 0 }

/-- Whether `digits * 10^exponent` lies in the interval. -/
def contains (interval : RoundingInterval) (digits : Nat) (exponent : Int) : Bool :=
  let point := digits * Nat.pow 10 exponent.toNat * interval.denominator
  let scale := Nat.pow 10 (-exponent).toNat
  if interval.closed then interval.lower * scale ≤ point && point ≤ interval.upper * scale
  else interval.lower * scale < point && point < interval.upper * scale

/-- The exponent of the leading decimal digit of the value. -/
def leadingExponent (interval : RoundingInterval) : Int :=
  if interval.denominator ≤ interval.value then
    ((Nat.toDigits 10 (interval.value / interval.denominator)).length : Int) - 1
  else
    let inverse := (interval.denominator + interval.value - 1) / interval.value
    Int.negOfNat (Nat.toDigits 10 (inverse - 1)).length

/-- The nearest decimal in the interval among the multiples of `10^exponent` next to the value. -/
def onGrid? (interval : RoundingInterval) (tie : Tie) (exponent : Int) : Option Decimal :=
  let value := interval.value * Nat.pow 10 (-exponent).toNat
  let step := interval.denominator * Nat.pow 10 exponent.toNat
  let below := value / step
  let twice := 2 * (value % step)
  match interval.contains below exponent, interval.contains (below + 1) exponent with
  | true, true =>
    let goUp := step < twice ||
      (step == twice && (match tie with | .up => true | .toEven => below % 2 == 1))
    some ⟨if goUp then below + 1 else below, exponent⟩
  | true, false => some ⟨below, exponent⟩
  | false, true => some ⟨below + 1, exponent⟩
  | false, false => none

end RoundingInterval

namespace Binary64

/-- The shortest decimal of the magnitude of a number, without trailing zeros. Seventeen digits
always suffice. -/
def shortest (tie : Tie) (number : Binary64) : Decimal :=
  if number.significand = 0 then ⟨0, 0⟩
  else
    let interval := RoundingInterval.ofBinary64 number
    let leading := interval.leadingExponent
    let found := (List.range 17).findSome? fun places : Nat =>
      interval.onGrid? tie (leading - places)
    (found.getD ⟨0, 0⟩).trimmed 17

end Binary64

end Number

end AccessPolicy
