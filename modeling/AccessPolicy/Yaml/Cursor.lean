/-!
# Places in a document

A cursor is a place in a document: the characters after it, with its line, its column and its
distance from the start. Line breaks are unified before a document is read.
-/

namespace AccessPolicy

namespace Yaml

/-- Whether a character is a space or a tab. -/
def isGap (character : Char) : Bool := character == ' ' || character == '\t'

/-- Whether a character ends a line, once line breaks are unified. -/
def isBreak (character : Char) : Bool :=
  character == '\n' || character == '\u2028' || character == '\u2029'

/-- Whether a character may stand in the names of anchors, handles and directives. -/
def isNameCharacter (character : Char) : Bool :=
  character.isAlphanum || character == '_' || character == '-'

/-- Whether a character may stand in a document. -/
def isAllowed (character : Char) : Bool :=
  let code := character.toNat
  code == 0x09 || code == 0x0A || code == 0x0D || (0x20 ≤ code && code ≤ 0x7E) || code == 0x85 ||
    (0xA0 ≤ code && code ≤ 0xFFFD) || 0x10000 ≤ code

/-- The characters with carriage returns, pairs of return and feed, and next-line characters
replaced by line feeds. -/
def unifyBreaks : List Char → List Char
  | '\r' :: '\n' :: rest => '\n' :: unifyBreaks rest
  | '\r' :: rest => '\n' :: unifyBreaks rest
  | '\u0085' :: rest => '\n' :: unifyBreaks rest
  | character :: rest => character :: unifyBreaks rest
  | [] => []

/-- A place in a document. -/
structure Cursor where
  /-- The characters after the place. -/
  rest : List Char
  /-- The number of bytes before the place, in UTF-8. -/
  index : Nat := 0
  /-- The number of lines before the place. -/
  line : Nat := 0
  /-- The number of characters before the place on its line. -/
  column : Nat := 0

namespace Cursor

/-- The place after the next character. -/
def next (cursor : Cursor) : Cursor :=
  match cursor.rest with
  | [] => cursor
  | character :: rest =>
    if isBreak character then ⟨rest, cursor.index + character.utf8Size, cursor.line + 1, 0⟩
    else ⟨rest, cursor.index + character.utf8Size, cursor.line, cursor.column + 1⟩

/-- The place after a number of characters. -/
def skip (cursor : Cursor) : Nat → Cursor
  | 0 => cursor
  | count + 1 => cursor.next.skip count

/-- The next character. -/
def peek? (cursor : Cursor) : Option Char := cursor.rest.head?

/-- The character at a distance. -/
def peekAt? (cursor : Cursor) (distance : Nat) : Option Char := cursor.rest[distance]?

/-- Whether the next character is the given one. -/
def startsWith (cursor : Cursor) (character : Char) : Bool := cursor.peek? == some character

/-- Whether the character at a distance is a space, a tab, a line break or the end. -/
def isBlankAt (cursor : Cursor) (distance : Nat) : Bool :=
  match cursor.peekAt? distance with
  | none => true
  | some character => isGap character || isBreak character

/-- Whether a line break or the end is next. -/
def atLineEnd (cursor : Cursor) : Bool :=
  match cursor.peek? with
  | none => true
  | some character => isBreak character

/-- The place after all characters of a kind. -/
def skipWhile (cursor : Cursor) (kind : Char → Bool) : Cursor :=
  cursor.skip (cursor.rest.takeWhile kind).length

/-- The place after spaces, tabs and a comment, if a line ends there. -/
def lineEnd? (cursor : Cursor) : Option Cursor :=
  let spaced := cursor.skipWhile isGap
  let ended :=
    if spaced.startsWith '#' then spaced.skipWhile fun character => !isBreak character else spaced
  if ended.atLineEnd then some ended.next else none

/-- Whether a line starts here with three times the given character, followed by a blank. -/
def atMarker (cursor : Cursor) (character : Char) : Bool :=
  cursor.column == 0 && cursor.rest.take 3 == List.replicate 3 character && cursor.isBlankAt 3

/-- Whether a line starts here with the mark of a document's start or end. -/
def atDocumentMarker (cursor : Cursor) : Bool := cursor.atMarker '-' || cursor.atMarker '.'

end Cursor

end Yaml

end AccessPolicy
