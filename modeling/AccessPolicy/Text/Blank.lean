/-!
# Blank characters

A character is blank when it has the Unicode property White_Space. Rule text is cut at blank
characters and the format of a document is guessed past them.
-/

namespace AccessPolicy

namespace Text

/-- The code points with the property White_Space, as inclusive ranges in increasing order. -/
def blankRanges : List (Nat × Nat) :=
  [(0x0009, 0x000D), (0x0020, 0x0020), (0x0085, 0x0085), (0x00A0, 0x00A0), (0x1680, 0x1680),
    (0x2000, 0x200A), (0x2028, 0x2029), (0x202F, 0x202F), (0x205F, 0x205F), (0x3000, 0x3000)]

/-- Whether the code point of `character` lies in one of the inclusive `ranges`. -/
def inRanges (ranges : List (Nat × Nat)) (character : Char) : Bool :=
  ranges.any fun (first, last) => first ≤ character.toNat && character.toNat ≤ last

/-- Whether `character` has the property White_Space. -/
def isBlank (character : Char) : Bool := inRanges blankRanges character

/-- The text without its leading blank characters. -/
def trimLeft (text : String) : String := String.ofList (text.toList.dropWhile isBlank)

/-- Whether the text holds blank characters only. -/
def allBlank (text : String) : Bool := text.toList.all isBlank

end Text

end AccessPolicy
