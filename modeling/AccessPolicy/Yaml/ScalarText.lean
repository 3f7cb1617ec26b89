import AccessPolicy.Json.Reader
import AccessPolicy.Yaml.Cursor

/-!
# Texts of scalars

A text is written plain, between quotes, or as a block of indented lines. Inside plain and quoted
texts a single line break is a space, and of several line breaks the first one is dropped.
-/

namespace AccessPolicy

namespace Yaml

/-- What stands between two words of a text. -/
structure Gap where
  /-- The spaces and tabs on the line of the first word. -/
  spaces : List Char := []
  /-- The first line break. -/
  firstBreak : List Char := []
  /-- The line breaks after the first one. -/
  laterBreaks : List Char := []
  /-- Whether a line ended. -/
  broken : Bool := false

namespace Gap

/-- The text that a gap stands for. -/
def text (gap : Gap) : List Char :=
  if !gap.broken then gap.spaces
  else if gap.firstBreak = ['\n'] then
    if gap.laterBreaks.isEmpty then [' '] else gap.laterBreaks
  else gap.firstBreak ++ gap.laterBreaks

/-- Reads the blanks at a place, adding them to a gap. A tab before the given column of a later
line is refused. At most `fuel` characters are read. -/
def read? (tabColumn : Nat) : Nat → Gap → Cursor → Option (Gap × Cursor)
  | 0, gap, cursor => some (gap, cursor)
  | fuel + 1, gap, cursor =>
    match cursor.peek? with
    | none => some (gap, cursor)
    | some character =>
      if isGap character then
        if gap.broken ∧ cursor.column < tabColumn ∧ character = '\t' then none
        else if gap.broken then read? tabColumn fuel gap cursor.next
        else read? tabColumn fuel { gap with spaces := gap.spaces ++ [character] } cursor.next
      else if isBreak character then
        if gap.broken then
          let breaks := gap.laterBreaks ++ [character]
          read? tabColumn fuel { gap with laterBreaks := breaks } cursor.next
        else read? tabColumn fuel { firstBreak := [character], broken := true } cursor.next
      else some (gap, cursor)

end Gap

/-! ## Plain texts -/

/-- Whether a character ends a plain text between brackets. -/
def isFlowIndicator (character : Char) : Bool :=
  character == ',' || character == '[' || character == ']' || character == '\x7b' ||
    character == '\x7d'

/-- The characters of a plain word; a colon ends it only before a blank. Between brackets a colon
before an indicator is refused. -/
def plainWord? (inFlow : Bool) : List Char → Option (List Char)
  | [] => some []
  | character :: rest =>
    let nextIsBlank := rest.head?.all fun next => isGap next || isBreak next
    if isGap character || isBreak character then some []
    else if inFlow && character == ':' &&
        rest.head?.any fun next => isFlowIndicator next || next == '?' then none
    else if character == ':' && nextIsBlank then some []
    else if inFlow && isFlowIndicator character then some []
    else (plainWord? inFlow rest).map (character :: ·)

/-- A text that was read, the place after it, and whether blanks with a line break follow it. -/
structure ReadText where
  /-- The text. -/
  text : List Char
  /-- The place after the text and the blanks that follow it. -/
  cursor : Cursor
  /-- Whether the last line of the text has ended. -/
  lineEnded : Bool := false

/-- Reads the words of a plain text after a gap; the gap counts only if a word follows it. Further
lines start at the given column or after it. -/
def plainText? (inFlow : Bool) (indent : Nat) : Nat → Gap → Cursor → Option ReadText
  | 0, gap, cursor => some ⟨[], cursor, gap.broken⟩
  | fuel + 1, gap, cursor =>
    if cursor.atDocumentMarker || cursor.startsWith '#' then some ⟨[], cursor, gap.broken⟩
    else do
      let word ← plainWord? inFlow cursor.rest
      if word.isEmpty then return ⟨[], cursor, gap.broken⟩
      let text := gap.text ++ word
      let ended := cursor.skip word.length
      let (next, start) ← Gap.read? indent fuel {} ended
      if start.index = ended.index then return ⟨text, ended, false⟩
      if !inFlow && start.column < indent then return ⟨text, start, next.broken⟩
      let tail ← plainText? inFlow indent fuel next start
      return { tail with text := text ++ tail.text }

/-! ## Quoted texts -/

/-- The character of a one-letter escape between double quotes. -/
def escape? : Char → Option Char
  | '0' => some '\x00'
  | 'a' => some '\x07'
  | 'b' => some '\x08'
  | 't' => some '\t'
  | '\t' => some '\t'
  | 'n' => some '\n'
  | 'v' => some '\x0b'
  | 'f' => some '\x0c'
  | 'r' => some '\r'
  | 'e' => some '\x1b'
  | ' ' => some ' '
  | '"' => some '"'
  | '/' => some '/'
  | '\\' => some '\\'
  | 'N' => some '\u0085'
  | '_' => some '\u00a0'
  | 'L' => some '\u2028'
  | 'P' => some '\u2029'
  | _ => none

/-- The number of hexadecimal digits after the letter of an escape. -/
def escapeDigits? : Char → Option Nat
  | 'x' => some 2
  | 'u' => some 4
  | 'U' => some 8
  | _ => none

/-- The character with the code that hexadecimal digits spell. -/
def escapedCode? (count : Nat) (digits : List Char) : Option Char := do
  let values ← digits.mapM Json.Reader.hexValue?
  let code := values.foldl (fun code digit => 16 * code + digit) 0
  if values.length = count ∧ code.isValidChar then some (Char.ofNat code) else none

/-- How a word between quotes ends. -/
inductive WordEnd where
  /-- At a blank, at the closing quote or at the end of the document. -/
  | open
  /-- At an escaped line break. -/
  | escapedBreak
  deriving DecidableEq

/-- A word between quotes, the place after it, and how it ends. -/
structure QuotedWord where
  /-- The characters. -/
  word : List Char
  /-- The place after the word. -/
  cursor : Cursor
  /-- How the word ends. -/
  ending : WordEnd

/-- A character in front of a word. -/
def QuotedWord.after (character : Char) (word : QuotedWord) : QuotedWord :=
  { word with word := character :: word.word }

/-- Reads a word between quotes. -/
def quotedWord? (single : Bool) : Nat → Cursor → Option QuotedWord
  | 0, cursor => some ⟨[], cursor, .open⟩
  | fuel + 1, cursor =>
    match cursor.rest with
    | [] => some ⟨[], cursor, .open⟩
    | character :: rest =>
      if isGap character || isBreak character then some ⟨[], cursor, .open⟩
      else if single then
        if character = '\'' then
          if rest.head? = some '\'' then
            (quotedWord? single fuel (cursor.skip 2)).map (.after '\'')
          else some ⟨[], cursor, .open⟩
        else (quotedWord? single fuel cursor.next).map (.after character)
      else if character = '"' then some ⟨[], cursor, .open⟩
      else if character = '\\' then
        match rest with
        | [] => none
        | letter :: digits =>
          if isBreak letter then some ⟨[], cursor.skip 2, .escapedBreak⟩
          else
            match escape? letter, escapeDigits? letter with
            | some escaped, _ => (quotedWord? single fuel (cursor.skip 2)).map (.after escaped)
            | none, some count =>
              match escapedCode? count (digits.take count) with
              | some escaped =>
                (quotedWord? single fuel (cursor.skip (2 + count))).map (.after escaped)
              | none => none
            | none, none => none
      else (quotedWord? single fuel cursor.next).map (.after character)

/-- Reads a quoted text after its opening quote up to the place after the closing one. -/
def quotedText? (single : Bool) : Nat → Cursor → Option ReadText
  | 0, _ => none
  | fuel + 1, cursor =>
    if cursor.atDocumentMarker || cursor.rest.isEmpty then none
    else do
      let ⟨word, ended, ending⟩ ← quotedWord? single fuel cursor
      if ended.startsWith (if single then '\'' else '"') then return ⟨word, ended.next, false⟩
      let (gap, start) ← Gap.read? 0 fuel { broken := ending == .escapedBreak } ended
      let tail ← quotedText? single fuel start
      return { tail with text := word ++ gap.text ++ tail.text }

/-! ## Block texts -/

/-- What happens to the line breaks at the end of a block text. -/
inductive Chomping where
  /-- All are dropped. -/
  | strip
  /-- One is kept. -/
  | clip
  /-- All are kept. -/
  | keep
  deriving DecidableEq

/-- The chomping that a sign asks for. -/
def chomping? : Char → Option Chomping
  | '-' => some .strip
  | '+' => some .keep
  | _ => none

/-- The indentation that a digit asks for; zero is refused. -/
def increment? (digit : Char) : Option Nat :=
  if digit.isDigit ∧ digit ≠ '0' then some (digit.toNat - '0'.toNat) else none

/-- The chomping and the indentation after the mark of a block text, and the place after them. -/
def blockHeader? (cursor : Cursor) : Option (Chomping × Nat × Cursor) :=
  match cursor.rest with
  | first :: rest =>
    match chomping? first with
    | some chomping =>
      match rest.head? with
      | some digit =>
        if digit.isDigit then
          (increment? digit).map fun increment => (chomping, increment, cursor.skip 2)
        else some (chomping, 0, cursor.next)
      | none => some (chomping, 0, cursor.next)
    | none =>
      if first.isDigit then do
        let increment ← increment? first
        match rest.head?.bind chomping? with
        | some chomping => return (chomping, increment, cursor.skip 2)
        | none => return (.clip, increment, cursor.next)
      else some (.clip, 0, cursor)
  | [] => some (.clip, 0, cursor)

/-- Reads line breaks and the indentation after them: the breaks, the greatest column, and the
place of the first line with content. The indentation is unlimited as long as it is not known. -/
def blockBreaks? (indent : Option Nat) :
    Nat → List Char → Nat → Cursor → Option (List Char × Nat × Cursor)
  | 0, breaks, greatest, cursor => some (breaks, greatest, cursor)
  | fuel + 1, breaks, greatest, cursor =>
    let inside := indent.all fun limit => cursor.column < limit
    match cursor.peek? with
    | none => some (breaks, max greatest cursor.column, cursor)
    | some character =>
      if inside && character == ' ' then blockBreaks? indent fuel breaks greatest cursor.next
      else if inside && character == '\t' then none
      else
        let greatest := max greatest cursor.column
        if isBreak character then
          blockBreaks? indent fuel (breaks ++ [character]) greatest cursor.next
        else some (breaks, greatest, cursor)

/-- The lines of a block text, with the line breaks at its end apart. -/
structure BlockText where
  /-- The lines and the line breaks between them. -/
  text : List Char
  /-- The line break after the last line. -/
  lastBreak : List Char
  /-- The line breaks of the empty lines that follow. -/
  laterBreaks : List Char
  /-- The place after them. -/
  cursor : Cursor

/-- Reads the lines of a block text that start at the given column. What stands before a line is
the break of the last line, those of empty lines, and whether the last line starts with a space or
a tab. -/
def blockLines? (literal : Bool) (indent : Nat) :
    Nat → (lastBreak laterBreaks : List Char) → (indented : Bool) → Cursor → Option BlockText
  | 0, lastBreak, laterBreaks, _, cursor => some ⟨[], lastBreak, laterBreaks, cursor⟩
  | fuel + 1, lastBreak, laterBreaks, indented, cursor =>
    match cursor.peek? with
    | none => some ⟨[], lastBreak, laterBreaks, cursor⟩
    | some character =>
      if cursor.column ≠ indent then some ⟨[], lastBreak, laterBreaks, cursor⟩
      else do
        let folded := !literal && lastBreak == ['\n'] && !indented && !isGap character
        let joint :=
          if folded then if laterBreaks.isEmpty then [' '] else [] else lastBreak
        let line := cursor.rest.takeWhile fun next => !isBreak next
        let ended := cursor.skip line.length
        let (breaks, _, start) ← blockBreaks? (some indent) fuel [] 0 ended.next
        let tail ←
          blockLines? literal indent fuel (ended.rest.take 1) breaks (isGap character) start
        return { tail with text := joint ++ laterBreaks ++ line ++ tail.text }

/-- Reads a block text after its mark, inside a block at the given column; `-1` is the column of
the document itself. At most `fuel` characters are read. -/
def blockText? (fuel : Nat) (literal : Bool) (parent : Int) (cursor : Cursor) :
    Option ReadText := do
  let (chomping, increment, afterHeader) ← blockHeader? cursor
  let start ← afterHeader.lineEnd?
  let declared : Option Nat := if increment = 0 then none else some (parent.toNat + increment)
  let (breaks, greatest, start) ← blockBreaks? declared fuel [] 0 start
  let indent := declared.getD (max greatest (max (parent + 1).toNat 1))
  let block ← blockLines? literal indent fuel [] breaks false start
  let tail := match chomping with
    | .strip => []
    | .clip => block.lastBreak
    | .keep => block.lastBreak ++ block.laterBreaks
  return ⟨block.text ++ tail, block.cursor, true⟩

end Yaml

end AccessPolicy
