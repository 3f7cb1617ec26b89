import AccessPolicy.Json.Reader

/-!
# Values of plain scalars

A plain text is null, a truth value, an integer, a number with a fraction or an exponent, or else
a string. Digits after a leading zero make a string. An integer that fits 128 but not 64 bits has
no value.
-/

namespace AccessPolicy

namespace Yaml

namespace Scalar

/-- Whether a text means null. -/
def isNull (text : String) : Bool := ["null", "Null", "NULL", "~"].contains text

/-- The truth value that a text means. -/
def bool? (text : String) : Option Bool :=
  if ["true", "True", "TRUE"].contains text then some true
  else if ["false", "False", "FALSE"].contains text then some false
  else none

/-- The sign in front of a text, and the text after it. -/
def signed (text : List Char) : Option Bool × List Char :=
  match text with
  | '-' :: rest => (some true, rest)
  | '+' :: rest => (some false, rest)
  | _ => (none, text)

/-- Whether a text is a zero followed by further digits, after an optional sign. -/
def hasLeadingZero (text : List Char) : Bool :=
  match (signed text).2 with
  | '0' :: next :: rest => (next :: rest).all Char.isDigit
  | _ => false

/-- The number that digits to a base spell. -/
def natural? (base : Nat) (digits : List Char) : Option Nat := do
  if digits.isEmpty then none
  let values ← digits.mapM Json.Reader.hexValue?
  if values.all (· < base) then
    return values.foldl (fun number digit => base * number + digit) 0
  else none

/-- The magnitude of an integer: decimal digits, or the marks `0x`, `0o` or `0b` and digits to
that base. -/
def magnitude? (text : List Char) : Option Nat :=
  match text with
  | '0' :: 'x' :: digits => natural? 16 digits
  | '0' :: 'o' :: digits => natural? 8 digits
  | '0' :: 'b' :: digits => natural? 2 digits
  | _ => if text.all Char.isDigit then natural? 10 text else none

/-- The integer that a text spells. -/
def integer? (text : List Char) : Option Int :=
  if hasLeadingZero text then none
  else
    let (sign, rest) := signed text
    (magnitude? rest).map fun magnitude => if sign = some true then -magnitude else magnitude

/-- The finite number that a text spells with digits, a point and an exponent. -/
def finite? (text : List Char) : Option Number.Binary64 := do
  let (sign, rest) := signed text
  let whole := rest.takeWhile Char.isDigit
  let (fraction, afterFraction) := match rest.dropWhile Char.isDigit with
    | '.' :: tail => (tail.takeWhile Char.isDigit, tail.dropWhile Char.isDigit)
    | tail => ([], tail)
  if whole.isEmpty ∧ fraction.isEmpty then none
  else
    let (exponent, ⟨tail, _⟩) ← Json.Reader.exponent? afterFraction
    if tail.isEmpty then
      Number.Binary64.ofDecimal? (sign == some true) (Json.Reader.digitsValue (whole ++ fraction))
        (exponent.getD 0 - fraction.length)
    else none

/-- Whether a text means an infinity or no number. -/
def isSpecial (text : String) : Bool :=
  [".inf", ".Inf", ".INF", "+.inf", "+.Inf", "+.INF", "-.inf", "-.Inf", "-.INF", ".nan", ".NaN",
    ".NAN"].contains text

/-- The number that a text spells; infinities and what is no number are null. -/
def float? (text : String) : Option Json :=
  if isSpecial text then some .null
  else (finite? text.toList).map fun value => .number (.double value)

/-- What an integer can be a value as. -/
inductive IntegerRange where
  /-- It fits 64 bits, with a sign if it is negative. -/
  | word
  /-- It fits 128 bits only. -/
  | wide
  /-- It fits neither. -/
  | beyond
  deriving DecidableEq

/-- The range of an integer. -/
def IntegerRange.of (value : Int) : IntegerRange :=
  if -(Nat.pow 2 63 : Int) ≤ value ∧ value < Nat.pow 2 64 then .word
  else if -(Nat.pow 2 127 : Int) ≤ value ∧ value < Nat.pow 2 128 then .wide
  else .beyond

/-- The integer of a text with its range, `none` if the text spells none or one beyond 128
bits. -/
def rangedInteger? (text : String) : Option (Int × IntegerRange) :=
  (integer? text.toList).bind fun value =>
    match IntegerRange.of value with
    | .beyond => none
    | range => some (value, range)

/-- The value of a plain text without a tag. -/
def ofPlain? (text : String) : Option Json :=
  if text.isEmpty ∨ isNull text then some .null
  else
    match bool? text, rangedInteger? text with
    | some value, _ => some (.bool value)
    | none, some (value, .word) => some (.ofInt value)
    | none, some _ => none
    | none, none =>
      if hasLeadingZero text.toList then some (.string text)
      else some ((float? text).getD (.string text))

/-- The tag of a type of the core schema. -/
def coreTag (name : String) : String := "tag:yaml.org,2002:" ++ name

/-- The value of a text with a tag. Tags of the core schema ask for their type, local tags have
no value, and every other tag makes a string. -/
def ofTagged? (tag text : String) : Option Json :=
  if tag.startsWith "!" then none
  else if tag = coreTag "bool" then (bool? text).map .bool
  else if tag = coreTag "int" then
    match rangedInteger? text with
    | some (value, .word) => some (.ofInt value)
    | _ => none
  else if tag = coreTag "float" then float? text
  else if tag = coreTag "null" then if isNull text then some .null else none
  else some (.string text)

/-- The value of a text. -/
def value? (tag : Option String) (plain : Bool) (text : String) : Option Json :=
  match tag with
  | some tag => ofTagged? tag text
  | none => if plain then ofPlain? text else some (.string text)

end Scalar

end Yaml

end AccessPolicy
