import AccessPolicy.Number.Shortest

/-!
# Written forms of binary64 numbers

A document shows a number with its shortest digits, positionally in a middle range and with an
exponent outside it. In comparisons a number has no exponent and no fraction when it is integral.
-/

namespace AccessPolicy

namespace Number

/-- A run of zeros. -/
private def zeros (count : Nat) : List Char := List.replicate count '0'

/-- The sign of a number as text. -/
private def signText (negative : Bool) : List Char := if negative then ['-'] else []

namespace Decimal

/-- The number of digits before the decimal point, negative or zero if the first digit comes
after it. -/
def pointPosition (decimal : Decimal) : Int := decimal.characters.length + decimal.exponent

/-- The digits around a decimal point, without an exponent; integers get no point. -/
def positional (decimal : Decimal) : List Char :=
  let characters := decimal.characters
  let position := decimal.pointPosition
  if 0 ≤ decimal.exponent then characters ++ zeros decimal.exponent.toNat
  else if 0 < position then
    characters.take position.toNat ++ '.' :: characters.drop position.toNat
  else '0' :: '.' :: zeros (-position).toNat ++ characters

/-- One digit before the point, the rest after it, and a signed exponent. -/
def scientific (decimal : Decimal) : List Char :=
  let characters := decimal.characters
  let exponent := decimal.pointPosition - 1
  let fraction := match characters.drop 1 with
    | [] => []
    | rest => '.' :: rest
  let sign := if exponent < 0 then '-' else '+'
  characters.take 1 ++ fraction ++ 'e' :: sign :: Nat.toDigits 10 exponent.natAbs

end Decimal

namespace Binary64

/-- The form in a document: positional with a decimal point from `0.00001` up to `10^16`, with an
exponent otherwise. Of two equally near decimals the even one is taken. -/
def documentText (number : Binary64) : String :=
  let decimal := number.shortest .toEven
  let position := decimal.pointPosition
  let magnitude :=
    if -5 < position ∧ position ≤ 16 then
      if 0 ≤ decimal.exponent then decimal.positional ++ ['.', '0'] else decimal.positional
    else decimal.scientific
  String.ofList (signText number.negative ++ magnitude)

/-- The form with the shortest digits and no exponent. Of two equally near decimals the greater
one is taken. -/
def positionalText (number : Binary64) : String :=
  String.ofList (signText number.negative ++ (number.shortest .up).positional)

/-- The form used in comparisons: all digits of an integral value below `10^21`, and the shortest
digits without an exponent otherwise. -/
def comparisonText (number : Binary64) : String :=
  if number.isIntegral ∧ number.wholePart < Nat.pow 10 21 then
    String.ofList (signText number.negative ++ Nat.toDigits 10 number.wholePart)
  else number.positionalText

end Binary64

end Number

end AccessPolicy
