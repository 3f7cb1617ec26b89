import AccessPolicy.Json.Fields

/-!
# Reading JSON text

The reader accepts exactly one value with blanks around it. Blanks are space, tab, line feed and
carriage return; control characters and unpaired surrogates are refused in strings; at most 127
lists and objects may be nested; of several fields with one key the last counts. Every reading
step returns the rest of the text with a proof that it is shorter.
-/

namespace AccessPolicy

namespace Json

namespace Reader

/-- What is left of a text after something was read from it. -/
abbrev Rest (text : List Char) := { rest : List Char // rest.length < text.length }

/-- The greatest number of nested lists and objects. -/
def greatestDepth : Nat := 127

/-- Whether a character may stand between the parts of a document. -/
def isSpace (character : Char) : Bool :=
  character == ' ' || character == '\t' || character == '\n' || character == '\r'

/-- The text without its leading spaces. -/
def skipSpace (text : List Char) : List Char := text.dropWhile isSpace

theorem length_skipSpace_le (text : List Char) : (skipSpace text).length ≤ text.length :=
  (List.dropWhile_suffix isSpace).length_le

theorem length_lt_of_skipSpace {text rest : List Char} {first : Char}
    (found : skipSpace text = first :: rest) : rest.length < text.length := by
  have bound := length_skipSpace_le text
  rw [found] at bound
  exact bound

/-- The value of a hexadecimal digit. -/
def hexValue? (character : Char) : Option Nat :=
  if character.isDigit then some (character.toNat - '0'.toNat)
  else if 'a' ≤ character ∧ character ≤ 'f' then some (character.toNat - 'a'.toNat + 10)
  else if 'A' ≤ character ∧ character ≤ 'F' then some (character.toNat - 'A'.toNat + 10)
  else none

/-- The number written by four hexadecimal digits. -/
def hexNumber? (first second third fourth : Char) : Option Nat := do
  let first ← hexValue? first
  let second ← hexValue? second
  let third ← hexValue? third
  let fourth ← hexValue? fourth
  return ((first * 16 + second) * 16 + third) * 16 + fourth

/-- The character of a pair of surrogates. -/
def surrogatePair (high low : Nat) : Char :=
  Char.ofNat (0x10000 + (high - 0xD800) * 0x400 + (low - 0xDC00))

/-- The character that a one-letter escape stands for. -/
def shortEscape? : Char → Option Char
  | '"' => some '"'
  | '\\' => some '\\'
  | '/' => some '/'
  | 'b' => some '\x08'
  | 'f' => some '\x0c'
  | 'n' => some '\n'
  | 'r' => some '\r'
  | 't' => some '\t'
  | _ => none

/-- The characters of a string up to its closing quote, and the text after it. -/
def stringTail? (text : List Char) : Option (List Char × Rest text) :=
  match text with
  | [] => none
  | '"' :: rest => some ([], ⟨rest, Nat.lt_add_one _⟩)
  | '\\' :: 'u' :: a :: b :: c :: d :: rest => do
    let unit ← hexNumber? a b c d
    if 0xD800 ≤ unit ∧ unit < 0xDC00 then
      match paired : rest with
      | '\\' :: 'u' :: e :: f :: g :: h :: afterPair =>
        let low ← hexNumber? e f g h
        if 0xDC00 ≤ low ∧ low < 0xE000 then
          let (characters, ⟨tail, shorter⟩) ← stringTail? afterPair
          return (surrogatePair unit low :: characters,
            ⟨tail, paired ▸ Nat.lt_add_right 12 shorter⟩)
        else none
      | _ => none
    else if 0xDC00 ≤ unit ∧ unit < 0xE000 then none
    else
      let (characters, ⟨tail, shorter⟩) ← stringTail? rest
      return (Char.ofNat unit :: characters, ⟨tail, Nat.lt_add_right 6 shorter⟩)
  | '\\' :: letter :: rest => do
    let character ← shortEscape? letter
    let (characters, ⟨tail, shorter⟩) ← stringTail? rest
    return (character :: characters, ⟨tail, Nat.lt_add_right 2 shorter⟩)
  | character :: rest =>
    if character.toNat < 32 then none
    else do
      let (characters, ⟨tail, shorter⟩) ← stringTail? rest
      return (character :: characters, ⟨tail, Nat.lt_add_right 1 shorter⟩)

/-- The number written by decimal digits. -/
def digitsValue (digits : List Char) : Nat :=
  digits.foldl (fun value digit => 10 * value + (digit.toNat - '0'.toNat)) 0

/-- The integer part of a number: `0`, or digits that do not begin with `0`. -/
def wholeDigits? (text : List Char) : Option (List Char × Rest text) :=
  match text with
  | [] => none
  | first :: rest =>
    if first = '0' then
      if (rest.head?.any Char.isDigit) then none else some (['0'], ⟨rest, Nat.lt_add_one _⟩)
    else if first.isDigit then
      some (first :: rest.takeWhile Char.isDigit, ⟨rest.dropWhile Char.isDigit,
        Nat.lt_succ_of_le (List.dropWhile_suffix Char.isDigit).length_le⟩)
    else none

/-- The digits after a decimal point, none if there is no point. -/
def fractionDigits? (text : List Char) :
    Option (List Char × { rest : List Char // rest.length ≤ text.length }) :=
  match text with
  | '.' :: rest =>
    let digits := rest.takeWhile Char.isDigit
    if digits.isEmpty then none
    else some (digits, ⟨rest.dropWhile Char.isDigit,
      Nat.le_succ_of_le (List.dropWhile_suffix Char.isDigit).length_le⟩)
  | text => some ([], ⟨text, Nat.le_refl _⟩)

/-- The exponent of a number, none if there is no exponent mark. -/
def exponent? (text : List Char) :
    Option (Option Int × { rest : List Char // rest.length ≤ text.length }) :=
  match text with
  | [] => some (none, ⟨[], Nat.le_refl _⟩)
  | mark :: rest =>
    if mark = 'e' ∨ mark = 'E' then
      let (negative, unsigned) := match rest with
        | '-' :: tail => (true, tail)
        | '+' :: tail => (false, tail)
        | _ => (false, rest)
      let digits := unsigned.takeWhile Char.isDigit
      let tail := unsigned.dropWhile Char.isDigit
      if shorter : digits ≠ [] ∧ tail.length ≤ (mark :: rest).length then
        let value : Int := digitsValue digits
        some (some (if negative then -value else value), ⟨tail, shorter.2⟩)
      else none
    else some (none, ⟨mark :: rest, Nat.le_refl _⟩)

/-- The number with the given parts. Without a fraction and an exponent it is exact if it fits 64
bits; negative zero is always a binary64 number. -/
def assembleNumber? (negative : Bool) (whole fraction : List Char) (exponent : Option Int) :
    Option JsonNumber :=
  let digits := digitsValue (whole ++ fraction)
  let asDouble :=
    (Number.Binary64.ofDecimal? negative digits (exponent.getD 0 - fraction.length)).map
      JsonNumber.double
  if fraction = [] ∧ exponent = none then
    if negative then
      if 0 < digits ∧ digits ≤ Nat.pow 2 63 then some (.integer (-digits)) else asDouble
    else if digits < Nat.pow 2 64 then some (.integer digits) else asDouble
  else asDouble

/-- A number at the start of a text. -/
def number? (text : List Char) : Option (JsonNumber × Rest text) :=
  match text with
  | '-' :: unsigned => do
    let (whole, ⟨afterWhole, shorter⟩) ← wholeDigits? unsigned
    let (fraction, ⟨afterFraction, bound⟩) ← fractionDigits? afterWhole
    let (exponent, ⟨rest, nextBound⟩) ← exponent? afterFraction
    let number ← assembleNumber? true whole fraction exponent
    return (number, ⟨rest, Nat.lt_succ_of_lt
      (Nat.lt_of_le_of_lt (Nat.le_trans nextBound bound) shorter)⟩)
  | text => do
    let (whole, ⟨afterWhole, shorter⟩) ← wholeDigits? text
    let (fraction, ⟨afterFraction, bound⟩) ← fractionDigits? afterWhole
    let (exponent, ⟨rest, nextBound⟩) ← exponent? afterFraction
    let number ← assembleNumber? false whole fraction exponent
    return (number, ⟨rest, Nat.lt_of_le_of_lt (Nat.le_trans nextBound bound) shorter⟩)

mutual

/-- A value at the start of a text, with at most `depth` nested lists and objects. -/
def value? (depth : Nat) (text : List Char) : Option (Json × Rest text) :=
  match text with
  | 'n' :: 'u' :: 'l' :: 'l' :: rest => some (.null, ⟨rest, Nat.lt_add_right 3 (Nat.lt_add_one _)⟩)
  | 't' :: 'r' :: 'u' :: 'e' :: rest =>
    some (.bool true, ⟨rest, Nat.lt_add_right 3 (Nat.lt_add_one _)⟩)
  | 'f' :: 'a' :: 'l' :: 's' :: 'e' :: rest =>
    some (.bool false, ⟨rest, Nat.lt_add_right 4 (Nat.lt_add_one _)⟩)
  | '"' :: rest => do
    let (characters, ⟨tail, shorter⟩) ← stringTail? rest
    return (.string (String.ofList characters), ⟨tail, Nat.lt_succ_of_lt shorter⟩)
  | '[' :: rest =>
    if depth = 0 then none
    else
      match spaced : skipSpace rest with
      | ']' :: tail => some (.array [], ⟨tail, Nat.lt_succ_of_lt (length_lt_of_skipSpace spaced)⟩)
      | _ => do
        let (items, ⟨tail, shorter⟩) ← items? (depth - 1) rest
        return (.array items, ⟨tail, Nat.lt_succ_of_lt shorter⟩)
  | '\x7b' :: rest =>
    if depth = 0 then none
    else
      match spaced : skipSpace rest with
      | '\x7d' :: tail =>
        some (.object [], ⟨tail, Nat.lt_succ_of_lt (length_lt_of_skipSpace spaced)⟩)
      | _ => do
        let (fields, ⟨tail, shorter⟩) ← fields? (depth - 1) rest
        return (ofFields fields, ⟨tail, Nat.lt_succ_of_lt shorter⟩)
  | text => do
    let (value, rest) ← number? text
    return (.number value, rest)
termination_by (text.length, 0)
decreasing_by
  · exact Prod.Lex.left _ _ (Nat.lt_add_one _)
  · exact Prod.Lex.left _ _ (Nat.lt_add_one _)

/-- The items of a list up to its closing bracket. -/
def items? (depth : Nat) (text : List Char) : Option (List Json × Rest text) := do
  let (item, ⟨afterItem, shorter⟩) ← value? depth (skipSpace text)
  have bound : afterItem.length < text.length :=
    Nat.lt_of_lt_of_le shorter (length_skipSpace_le text)
  match spaced : skipSpace afterItem with
  | ']' :: tail => return ([item], ⟨tail, Nat.lt_trans (length_lt_of_skipSpace spaced) bound⟩)
  | ',' :: tail =>
    have tailBound : tail.length < text.length :=
      Nat.lt_trans (length_lt_of_skipSpace spaced) bound
    let (items, ⟨rest, restShorter⟩) ← items? depth tail
    return (item :: items, ⟨rest, Nat.lt_trans restShorter tailBound⟩)
  | _ => none
termination_by (text.length, 1)
decreasing_by
  · exact Prod.Lex.right' _ (length_skipSpace_le text) Nat.zero_lt_one
  · exact Prod.Lex.left _ _ tailBound

/-- The fields of an object up to its closing brace. -/
def fields? (depth : Nat) (text : List Char) : Option (Entries Json × Rest text) := do
  match opened : skipSpace text with
  | '"' :: afterQuote =>
    let (key, ⟨afterKey, keyShorter⟩) ← stringTail? afterQuote
    match colon : skipSpace afterKey with
    | ':' :: afterColon =>
      have bound : (skipSpace afterColon).length < text.length :=
        Nat.lt_of_le_of_lt (length_skipSpace_le afterColon)
          (Nat.lt_trans (length_lt_of_skipSpace colon)
            (Nat.lt_trans keyShorter (length_lt_of_skipSpace opened)))
      let (value, ⟨afterValue, shorter⟩) ← value? depth (skipSpace afterColon)
      match spaced : skipSpace afterValue with
      | '\x7d' :: tail =>
        return ([(String.ofList key, value)], ⟨tail,
          Nat.lt_trans (length_lt_of_skipSpace spaced) (Nat.lt_trans shorter bound)⟩)
      | ',' :: tail =>
        have tailBound : tail.length < text.length :=
          Nat.lt_trans (length_lt_of_skipSpace spaced) (Nat.lt_trans shorter bound)
        let (fields, ⟨rest, restShorter⟩) ← fields? depth tail
        return ((String.ofList key, value) :: fields,
          ⟨rest, Nat.lt_trans restShorter tailBound⟩)
      | _ => none
    | _ => none
  | _ => none
termination_by (text.length, 1)
decreasing_by
  · exact Prod.Lex.left _ _ bound
  · exact Prod.Lex.left _ _ tailBound

end

end Reader

/-- The value written in a text, `none` if the text is not one JSON value. -/
def parse? (text : String) : Option Json := do
  let (value, ⟨rest, _⟩) ← Reader.value? Reader.greatestDepth (Reader.skipSpace text.toList)
  if Reader.skipSpace rest = [] then return value else none

end Json

end AccessPolicy
