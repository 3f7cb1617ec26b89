/-!
# Tokens of a document

The tokens show the structure of a document: block collections get tokens of their own where
indentation opens and closes them.
-/

namespace AccessPolicy

namespace Yaml

/-- A token of a document. -/
inductive Token where
  /-- The version that a document claims. -/
  | version (major minor : Nat)
  /-- A handle for the beginnings of tags. -/
  | handle (name base : String)
  /-- The mark before a document. -/
  | documentStart
  /-- The mark after a document. -/
  | documentEnd
  /-- The start of a list by indentation. -/
  | blockSequence
  /-- The start of a mapping by indentation. -/
  | blockMapping
  /-- The end of a list or mapping by indentation. -/
  | blockEnd
  /-- An opening bracket. -/
  | openBracket
  /-- A closing bracket. -/
  | closeBracket
  /-- An opening brace. -/
  | openBrace
  /-- A closing brace. -/
  | closeBrace
  /-- The hyphen before an item. -/
  | item
  /-- The comma between items. -/
  | comma
  /-- The mark before a key, written or understood. -/
  | key
  /-- The colon before a value. -/
  | value
  /-- A reference to an anchor. -/
  | alias (name : String)
  /-- The name of the node that follows. -/
  | anchor (name : String)
  /-- The type of the node that follows. -/
  | tag (handle suffix : String)
  /-- A text, and whether it stands without quotes on lines of other content. -/
  | scalar (text : String) (plain : Bool)
  deriving DecidableEq, Repr

end Yaml

end AccessPolicy
