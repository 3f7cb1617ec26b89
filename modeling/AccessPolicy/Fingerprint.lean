import AccessPolicy.Configuration
import AccessPolicy.Fingerprint.Sha256

/-!
# Fingerprints

A fingerprint is the digest of a byte string in which every text is preceded by its length, so
that different rules and different configurations give different byte strings.
-/

namespace AccessPolicy

namespace Fingerprint

/-- The eight bytes of a number below `2^64`, the least significant one first. -/
def littleEndian64 (number : Nat) : List UInt8 :=
  (List.range 8).map fun place => (number / Nat.pow 256 place).toUInt8

/-- The UTF-8 bytes of a text. -/
def textBytes (text : String) : List UInt8 := text.toUTF8.data.toList

/-- The bytes of a text after their number. -/
def fieldBytes (text : String) : List UInt8 :=
  littleEndian64 (textBytes text).length ++ textBytes text

/-- The bytes of a rule: its name, then its expression. -/
def ruleBytes (name expression : String) : List UInt8 := fieldBytes name ++ fieldBytes expression

/-- The bytes of a configuration: the number of its rules, then the rules in the order of their
names. -/
def configurationBytes (configuration : Configuration) : List UInt8 :=
  littleEndian64 configuration.size ++
    configuration.entries.flatMap fun (name, expression) => ruleBytes name expression

/-- The lower-case hexadecimal digit of a number below sixteen. -/
def hexDigit (number : UInt8) : Char :=
  if number < 10 then Char.ofNat ('0'.toNat + number.toNat)
  else Char.ofNat ('a'.toNat + number.toNat - 10)

/-- Two hexadecimal digits for every byte. -/
def hex (bytes : List UInt8) : List Char :=
  bytes.flatMap fun byte => [hexDigit (byte / 16), hexDigit (byte % 16)]

/-- The fingerprint of one rule. -/
def ofRule (name expression : String) : String :=
  String.ofList ('r' :: ':' :: hex (Sha256.digest (ruleBytes name expression)))

/-- The fingerprint of a configuration. -/
def ofConfiguration (configuration : Configuration) : String :=
  String.ofList ('p' :: ':' :: hex (Sha256.digest (configurationBytes configuration)))

end Fingerprint

end AccessPolicy
