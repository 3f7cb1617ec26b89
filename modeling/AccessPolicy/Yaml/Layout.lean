import AccessPolicy.Yaml.ScalarText
import AccessPolicy.Yaml.Token

/-!
# Reading a document into tokens

Indentation opens and closes block collections. A key need not be marked: any node on one line may
turn out to be a key when a colon follows it, so the place of such a node among the tokens is
remembered until its line ends, and the mark of the key is put in there.
-/

namespace AccessPolicy

namespace Yaml

/-- A node that may turn out to be a key. -/
structure PossibleKey where
  /-- Whether the node has to be a key because of its column. -/
  required : Bool
  /-- The number of tokens before the node. -/
  position : Nat
  /-- Where the node starts. -/
  start : Cursor

/-- What is known at a place of a document. -/
structure Layout where
  /-- The place. -/
  cursor : Cursor
  /-- The tokens before the place. -/
  tokens : Array Token := #[]
  /-- The column of the innermost block collection; `-1` outside of all. -/
  indent : Int := -1
  /-- The columns of the block collections around it. -/
  outerIndents : List Int := []
  /-- Whether an unmarked key may start here. -/
  keyAllowed : Bool := true
  /-- The possible key of the innermost brackets, or of the block collections outside of all
  brackets. -/
  possibleKey : Option PossibleKey := none
  /-- The possible keys around it, one for every open bracket or brace. -/
  outerKeys : List (Option PossibleKey) := []

namespace Layout

/-- Whether the place lies between brackets or braces. -/
def inFlow (layout : Layout) : Bool := !layout.outerKeys.isEmpty

/-- The layout with a token added. -/
def push (layout : Layout) (token : Token) : Layout :=
  { layout with tokens := layout.tokens.push token }

/-- The layout with a token put in before those from a position on. -/
def insertAt (layout : Layout) (position : Nat) (token : Token) : Layout :=
  { layout with tokens := layout.tokens.insertIdxIfInBounds position token }

/-- The layout with characters left behind. -/
def skip (layout : Layout) (count : Nat) : Layout :=
  { layout with cursor := layout.cursor.skip count }

/-- The layout with another answer to whether a key may start. -/
def allowKey (layout : Layout) (allowed : Bool) : Layout := { layout with keyAllowed := allowed }

/-- Forgets the possible key; a required one is refused. -/
def dropKey? (layout : Layout) : Option Layout :=
  if layout.possibleKey.any (·.required) then none else some { layout with possibleKey := none }

/-- Remembers the next node as a possible key if a key may start here. -/
def noteKey? (layout : Layout) : Option Layout :=
  if layout.keyAllowed then do
    let required := !layout.inFlow && layout.indent == layout.cursor.column
    let dropped ← layout.dropKey?
    let key : PossibleKey := ⟨required, layout.tokens.size, layout.cursor⟩
    return { dropped with possibleKey := some key }
  else some layout

/-- Whether a possible key is too far back: on an earlier line, or more than 1024 bytes. -/
def isStale (layout : Layout) (key : PossibleKey) : Bool :=
  key.start.line < layout.cursor.line || key.start.index + 1024 < layout.cursor.index

/-- Forgets the possible keys that are too far back; a required one is refused. -/
def dropStaleKeys? (layout : Layout) : Option Layout :=
  let staleAndRequired (key : Option PossibleKey) : Bool :=
    key.any fun key => layout.isStale key && key.required
  let keep (key : Option PossibleKey) : Option PossibleKey :=
    key.filter fun key => !layout.isStale key
  if staleAndRequired layout.possibleKey || layout.outerKeys.any staleAndRequired then none
  else some { layout with
    possibleKey := keep layout.possibleKey
    outerKeys := layout.outerKeys.map keep }

/-- Opens a block collection at a column to the right of the innermost one. -/
def openBlock (layout : Layout) (column position : Nat) (token : Token) : Layout :=
  if layout.inFlow || column ≤ layout.indent then layout
  else
    { layout.insertAt position token with
      indent := column
      outerIndents := layout.indent :: layout.outerIndents }

/-- Closes the block collections to the right of a column. -/
def closeBlocks (layout : Layout) (column : Int) : Layout :=
  if layout.inFlow then layout else close layout.outerIndents layout
where
  /-- Closes the innermost of the remaining collections, if it stands to the right. -/
  close (outer : List Int) (layout : Layout) : Layout :=
    if layout.indent ≤ column then layout
    else
      match outer with
      | [] => layout
      | next :: rest =>
        close rest { layout.push .blockEnd with indent := next, outerIndents := rest }

/-- Skips spaces, comments and line breaks; a tab counts as a space where no key may start, and a
byte order mark at the start of a line. After a line break outside of brackets a key may start. At
most `fuel` characters are skipped. -/
def skipToToken (layout : Layout) : Nat → Layout
  | 0 => layout
  | fuel + 1 =>
    match layout.cursor.peek? with
    | none => layout
    | some character =>
      if character = ' ' ∨ (character = '\t' ∧ (layout.inFlow ∨ !layout.keyAllowed)) ∨
          (character = '\uFEFF' ∧ layout.cursor.column = 0) then
        (layout.skip 1).skipToToken fuel
      else if character = '#' then
        let comment := layout.cursor.rest.takeWhile fun next => !isBreak next
        (layout.skip comment.length).skipToToken fuel
      else if isBreak character then
        ((layout.skip 1).allowKey (layout.keyAllowed || !layout.inFlow)).skipToToken fuel
      else layout

/-! ## Tokens with a fixed text -/

/-- The start of brackets or braces. -/
def openFlow? (layout : Layout) (token : Token) : Option Layout := do
  let noted ← layout.noteKey?
  let opened := (noted.push token).skip 1
  return { opened with
    outerKeys := opened.possibleKey :: opened.outerKeys
    possibleKey := none
    keyAllowed := true }

/-- The end of brackets or braces. -/
def closeFlow? (layout : Layout) (token : Token) : Option Layout := do
  let dropped ← layout.dropKey?
  let closed := ((dropped.push token).skip 1).allowKey false
  match closed.outerKeys with
  | [] => return closed
  | key :: rest => return { closed with possibleKey := key, outerKeys := rest }

/-- A comma between brackets or braces. -/
def comma? (layout : Layout) : Option Layout := do
  let dropped ← layout.dropKey?
  return ((dropped.push .comma).skip 1).allowKey true

/-- Opens a block collection here, where one may start. -/
def startBlock? (layout : Layout) (token : Token) : Option Layout :=
  if layout.inFlow then some layout
  else if layout.keyAllowed then
    some (layout.openBlock layout.cursor.column layout.tokens.size token)
  else none

/-- The hyphen before an item. -/
def item? (layout : Layout) : Option Layout := do
  let started ← layout.startBlock? .blockSequence
  let dropped ← started.dropKey?
  return ((dropped.push .item).skip 1).allowKey true

/-- The question mark before a key. -/
def key? (layout : Layout) : Option Layout := do
  let started ← layout.startBlock? .blockMapping
  let dropped ← started.dropKey?
  return ((dropped.push .key).skip 1).allowKey (!layout.inFlow)

/-- The colon before a value. The possible key becomes a key. -/
def value? (layout : Layout) : Option Layout :=
  match layout.possibleKey with
  | some key =>
    let marked := layout.insertAt key.position .key
    let opened := marked.openBlock key.start.column key.position .blockMapping
    some ((({ opened with possibleKey := none }.push .value).skip 1).allowKey false)
  | none => do
    let started ← layout.startBlock? .blockMapping
    return ((started.push .value).skip 1).allowKey (!layout.inFlow)

/-- The mark before or after a document. -/
def documentMarker? (layout : Layout) (token : Token) : Option Layout := do
  let dropped ← (layout.closeBlocks (-1)).dropKey?
  return ((dropped.push token).skip 3).allowKey false

/-! ## Directives -/

/-- The number at the start of a text, of at most nine digits, and the text after it. -/
def shortNumber? (text : List Char) : Option (Nat × List Char) :=
  let digits := text.takeWhile Char.isDigit
  if digits.isEmpty ∨ 9 < digits.length then none
  else some (Json.Reader.digitsValue digits, text.dropWhile Char.isDigit)

/-- The version at the start of a text, and the text after it. -/
def version? (text : List Char) : Option (Token × List Char) := do
  let (major, afterMajor) ← shortNumber? text
  match afterMajor with
  | '.' :: afterDot =>
    let (minor, rest) ← shortNumber? afterDot
    return (.version major minor, rest)
  | _ => none

/-- The handle of a tag at the start of a text, and the text after it. -/
def tagHandle? : List Char → Option (List Char × List Char)
  | '!' :: rest =>
    let name := rest.takeWhile isNameCharacter
    match rest.dropWhile isNameCharacter with
    | '!' :: after => some ('!' :: name ++ ['!'], after)
    | after => some ('!' :: name, after)
  | _ => none

/-- Whether a character may stand in a tag; between angle brackets some more may. -/
def isTagCharacter (verbatim : Bool) (character : Char) : Bool :=
  isNameCharacter character || ";/?:@&=+$.!~*'()".toList.contains character ||
    (verbatim && ",[]".toList.contains character)

/-- The number of bytes of a character that starts with a byte. -/
def utf8Width? (byte : Nat) : Option Nat :=
  if byte < 0x80 then some 1
  else if byte < 0xC0 then none
  else if byte < 0xE0 then some 2
  else if byte < 0xF0 then some 3
  else if byte < 0xF8 then some 4
  else none

/-- The bytes that a number of escapes with two hexadecimal digits spell. -/
def escapedBytes? : Nat → List Char → Option (List UInt8 × List Char)
  | 0, text => some ([], text)
  | count + 1, '%' :: high :: low :: rest => do
    let high ← Json.Reader.hexValue? high
    let low ← Json.Reader.hexValue? low
    let (bytes, rest) ← escapedBytes? count rest
    return ((16 * high + low).toUInt8 :: bytes, rest)
  | _, _ => none

/-- The character that escapes at the start of a text spell, and the text after them. -/
def escapedCharacter? (text : List Char) : Option (List Char × List Char) := do
  let (first, _) ← escapedBytes? 1 text
  let width ← first.head?.bind fun byte => utf8Width? byte.toNat
  let (bytes, rest) ← escapedBytes? width text
  let decoded ← String.fromUTF8? ⟨bytes.toArray⟩
  return (decoded.toList, rest)

/-- The characters of a tag, and the text after them. -/
def tagText? (verbatim : Bool) : Nat → List Char → Option (List Char × List Char)
  | 0, text => some ([], text)
  | fuel + 1, text =>
    match text with
    | [] => some ([], [])
    | character :: rest =>
      if character = '%' then do
        let (escaped, rest) ← escapedCharacter? (character :: rest)
        let (tail, rest) ← tagText? verbatim fuel rest
        return (escaped ++ tail, rest)
      else if isTagCharacter verbatim character then do
        let (tail, rest) ← tagText? verbatim fuel rest
        return (character :: tail, rest)
      else some ([], character :: rest)

/-- Whether a blank or the end comes first in a text. -/
def startsBlank (text : List Char) : Bool :=
  text.head?.all fun next => isGap next || isBreak next

/-- The handle and the beginning of tags that a directive declares, and the text after them. -/
def handleDirective? (text : List Char) : Option (Token × List Char) := do
  let (handle, afterHandle) ← tagHandle? text
  if handle ≠ ['!'] ∧ (handle.length = 1 ∨ handle.getLast? ≠ some '!') then none
  else if afterHandle.isEmpty ∨ !(afterHandle.head?.all isGap) then none
  else
    let start := afterHandle.dropWhile isGap
    let (base, rest) ← tagText? true start.length start
    if base.isEmpty ∨ !startsBlank rest then none
    else return (.handle (String.ofList handle) (String.ofList base), rest)

/-- A directive at the start of a line. -/
def directive? (layout : Layout) : Option Layout := do
  let dropped ← (layout.closeBlocks (-1)).dropKey?
  let named := dropped.cursor.next
  let name := named.rest.takeWhile isNameCharacter
  let afterName := named.skip name.length
  if name.isEmpty ∨ !startsBlank afterName.rest then none
  else
    let body := afterName.skipWhile isGap
    let (token, rest) ←
      if name = "YAML".toList then version? body.rest
      else if name = "TAG".toList then handleDirective? body.rest
      else none
    let ended ← (body.skip (body.rest.length - rest.length)).lineEnd?
    return { dropped.push token with cursor := ended, keyAllowed := false }

/-! ## Tokens with a text of their own -/

/-- Whether a character may follow the name of an anchor. -/
def endsAnchor (text : List Char) : Bool :=
  match text with
  | [] => true
  | next :: _ => isGap next || isBreak next || "?:,]\x7d%@\x60".toList.contains next

/-- An anchor or a reference to one. -/
def anchor? (layout : Layout) (token : String → Token) : Option Layout := do
  let noted ← layout.noteKey?
  let start := noted.cursor.next
  let name := start.rest.takeWhile isNameCharacter
  let ended := start.skip name.length
  if name.isEmpty ∨ !endsAnchor ended.rest then none
  else return ({ noted with cursor := ended }.push (token (String.ofList name))).allowKey false

/-- The handle and the suffix of a tag, and the text after them. -/
def tagParts? (text : List Char) : Option (List Char × List Char × List Char) :=
  match text with
  | '!' :: '<' :: start => do
    let (suffix, rest) ← tagText? true start.length start
    match rest with
    | '>' :: rest => if suffix.isEmpty then none else return ([], suffix, rest)
    | _ => none
  | _ => do
    let (handle, afterHandle) ← tagHandle? text
    let (suffix, rest) ← tagText? false afterHandle.length afterHandle
    if 1 < handle.length ∧ handle.getLast? = some '!' then
      if suffix.isEmpty then none else return (handle, suffix, rest)
    else
      let whole := handle.drop 1 ++ suffix
      if whole.isEmpty then return ([], ['!'], rest) else return (['!'], whole, rest)

/-- A tag. -/
def tag? (layout : Layout) : Option Layout := do
  let noted ← layout.noteKey?
  let text := noted.cursor.rest
  let (handle, suffix, rest) ← tagParts? text
  if startsBlank rest ∨ (noted.inFlow ∧ rest.head? = some ',') then
    let ended := noted.skip (text.length - rest.length)
    return (ended.push (.tag (String.ofList handle) (String.ofList suffix))).allowKey false
  else none

/-- A text that was read, as a token. -/
def pushText (layout : Layout) (read : ReadText) (plain : Bool) : Layout :=
  { layout.push (.scalar (String.ofList read.text) plain) with cursor := read.cursor }

/-- A block text. -/
def blockScalar? (layout : Layout) (fuel : Nat) (literal : Bool) : Option Layout := do
  let dropped ← layout.dropKey?
  let read ← blockText? fuel literal dropped.indent dropped.cursor.next
  return (dropped.pushText read false).allowKey true

/-- A quoted text. -/
def quotedScalar? (layout : Layout) (fuel : Nat) (single : Bool) : Option Layout := do
  let noted ← layout.noteKey?
  let read ← quotedText? single fuel noted.cursor.next
  return (noted.pushText read false).allowKey false

/-- A plain text. A key may start after it if its line has ended. -/
def plainScalar? (layout : Layout) (fuel : Nat) : Option Layout := do
  let noted ← layout.noteKey?
  let read ← plainText? noted.inFlow (noted.indent + 1).toNat fuel {} noted.cursor
  return (noted.pushText read true).allowKey read.lineEnded

/-- Whether a plain text may start with a character. -/
def startsPlain (layout : Layout) (character : Char) : Bool :=
  let cursor := layout.cursor
  if character = '-' then !(cursor.peekAt? 1).any isGap
  else if character = '?' ∨ character = ':' then !layout.inFlow && !cursor.isBlankAt 1
  else !(isGap character || ",[]\x7b\x7d#&*!|>'\"%@\x60".toList.contains character)

/-- Reads the token that starts with the given character. More than `fuel` characters are not
left. -/
def token? (layout : Layout) (fuel : Nat) (character : Char) : Option Layout :=
  let cursor := layout.cursor
  if cursor.column = 0 ∧ character = '%' then layout.directive?
  else if cursor.atMarker '-' then layout.documentMarker? .documentStart
  else if cursor.atMarker '.' then layout.documentMarker? .documentEnd
  else if character = '[' then layout.openFlow? .openBracket
  else if character = '\x7b' then layout.openFlow? .openBrace
  else if character = ']' then layout.closeFlow? .closeBracket
  else if character = '\x7d' then layout.closeFlow? .closeBrace
  else if character = ',' then layout.comma?
  else if character = '-' ∧ cursor.isBlankAt 1 then layout.item?
  else if character = '?' ∧ (layout.inFlow ∨ cursor.isBlankAt 1) then layout.key?
  else if character = ':' ∧ (layout.inFlow ∨ cursor.isBlankAt 1) then layout.value?
  else if character = '*' then layout.anchor? .alias
  else if character = '&' then layout.anchor? .anchor
  else if character = '!' then layout.tag?
  else if character = '|' ∧ !layout.inFlow then layout.blockScalar? fuel true
  else if character = '>' ∧ !layout.inFlow then layout.blockScalar? fuel false
  else if character = '\'' then layout.quotedScalar? fuel true
  else if character = '"' then layout.quotedScalar? fuel false
  else if layout.startsPlain character then layout.plainScalar? fuel
  else none

/-- Reads tokens up to the end of the document. Every token has at least one character, so as
many steps as there are characters suffice. -/
def finish? : Nat → Layout → Option Layout
  | 0, _ => none
  | fuel + 1, layout => do
    let spaced := layout.skipToToken fuel
    let fresh ← spaced.dropStaleKeys?
    match fresh.cursor.peek? with
    | none => (fresh.closeBlocks (-1)).dropKey?
    | some character =>
      let next ← (fresh.closeBlocks fresh.cursor.column).token? (fuel + 1) character
      finish? fuel next

end Layout

/-- The tokens of a document. -/
def tokens? (text : List Char) : Option (List Token) :=
  if text.all isAllowed then do
    let layout ← Layout.finish? (text.length + 1) { cursor := { rest := unifyBreaks text } }
    return layout.tokens.toList
  else none

end Yaml

end AccessPolicy
