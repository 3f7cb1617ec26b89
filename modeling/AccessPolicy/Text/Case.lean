/-!
# Comparison without regard to ASCII case

Operator words, administrator flags and the administrator role are recognised in any mixture of
upper and lower case. Only the letters `A` to `Z` have a second form here.
-/

namespace AccessPolicy

namespace Text

/-- The text with the letters `A` to `Z` replaced by `a` to `z`. -/
def lower (text : String) : String := String.ofList (text.toList.map Char.toLower)

/-- Whether two texts differ at most in the case of ASCII letters. -/
def sameLetters (left right : String) : Bool := lower left == lower right

end Text

end AccessPolicy
