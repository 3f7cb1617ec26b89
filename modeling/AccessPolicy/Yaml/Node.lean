import AccessPolicy.Yaml.Token

/-!
# Nodes of a document

A document is one node. Nodes are read from tokens. An anchor names the node that it stands before,
and gives it the number of names that are known by then; a reference stands for the number that its
name has at that place. A name that is used again therefore shares its new number with the next new
name, so a reference can only be followed once the whole document is read.
-/

namespace AccessPolicy

namespace Yaml

/-- A node of a document. -/
inductive Node where
  /-- A text, with its tag and whether it is written plain. -/
  | scalar (tag : Option String) (plain : Bool) (text : String)
  /-- A list. -/
  | sequence (tag : Option String) (items : List Node)
  /-- A mapping, with its fields in the order of the document. -/
  | mapping (tag : Option String) (fields : List (Node × Node))
  /-- A node with the number of its anchor. -/
  | anchored (number : Nat) (node : Node)
  /-- A reference to the node with a number. -/
  | alias (number : Nat)

namespace Node

/-- A node that is not written at all. -/
def missing : Node := .scalar none true ""

mutual

/-- The number of starts and ends of nodes in the document, references not followed. -/
def eventCount : Node → Nat
  | .scalar .. | .alias _ => 1
  | .sequence _ items => 2 + itemEvents items
  | .mapping _ fields => 2 + fieldEvents fields
  | .anchored _ node => node.eventCount

/-- The events of all items. -/
def itemEvents : List Node → Nat
  | [] => 0
  | item :: rest => item.eventCount + itemEvents rest

/-- The events of all fields. -/
def fieldEvents : List (Node × Node) → Nat
  | [] => 0
  | (key, value) :: rest => key.eventCount + value.eventCount + fieldEvents rest

end

mutual

/-- The nodes with anchors, with their numbers, in the order in which they start. -/
def anchoredNodes : Node → List (Nat × Node)
  | .scalar .. | .alias _ => []
  | .sequence _ items => anchoredItems items
  | .mapping _ fields => anchoredFields fields
  | .anchored number node => (number, node) :: node.anchoredNodes

/-- The nodes with anchors in all items. -/
def anchoredItems : List Node → List (Nat × Node)
  | [] => []
  | item :: rest => item.anchoredNodes ++ anchoredItems rest

/-- The nodes with anchors in all fields. -/
def anchoredFields : List (Node × Node) → List (Nat × Node)
  | [] => []
  | (key, value) :: rest => key.anchoredNodes ++ value.anchoredNodes ++ anchoredFields rest

end

end Node

/-- What was read before a place among the tokens. -/
structure Reading where
  /-- The tokens after the place. -/
  tokens : List Token
  /-- The numbers of the names that anchors have given, the latest first. -/
  anchors : List (String × Nat) := []
  /-- The handles with the beginnings of tags that they stand for. -/
  handles : List (String × String) := []

namespace Reading

/-- The next token. -/
def peek? (reading : Reading) : Option Token := reading.tokens.head?

/-- The reading after the next token. -/
def next (reading : Reading) : Reading := { reading with tokens := reading.tokens.tail }

/-- Whether the next token is one of the given ones. -/
def nextIsAmong (reading : Reading) (tokens : List Token) : Bool :=
  reading.peek?.any tokens.contains

/-- The reading inside a node with the given anchor: its name has the number of known names. -/
def enter (reading : Reading) (anchor : Option String) : Reading :=
  match anchor with
  | none => reading
  | some name =>
    let others := reading.anchors.filter fun (other, _) => other ≠ name
    { reading with anchors := (name, reading.anchors.length) :: others }

/-- A node that starts here, with its number if it has an anchor. -/
def mark (reading : Reading) (anchor : Option String) (node : Node) : Node :=
  if anchor.isSome then .anchored reading.anchors.length node else node

/-- The whole tag of a handle and a suffix. -/
def tag? (reading : Reading) (handle suffix : String) : Option String :=
  if handle = "" then some suffix
  else (reading.handles.lookup handle).map (· ++ suffix)

/-- The anchor and the tag before a node, in any order. -/
def properties? (reading : Reading) : Option (Option String × Option String × Reading) :=
  match reading.tokens with
  | .anchor anchor :: .tag handle suffix :: rest
  | .tag handle suffix :: .anchor anchor :: rest =>
    (reading.tag? handle suffix).map fun tag =>
      (some anchor, some tag, { reading with tokens := rest })
  | .anchor anchor :: rest => some (some anchor, none, { reading with tokens := rest })
  | .tag handle suffix :: rest =>
    (reading.tag? handle suffix).map fun tag => (none, some tag, { reading with tokens := rest })
  | _ => some (none, none, reading)

/-- An empty text, which stands where an anchor or a tag has no node after it. -/
def emptyNode? (reading : Reading) (anchor tag : Option String) : Option (Node × Reading) :=
  if anchor.isSome || tag.isSome then
    some (reading.mark anchor (.scalar tag true ""), reading.enter anchor)
  else none

end Reading

namespace Node

mutual

/-- Reads a node. A node in a block may be a collection by indentation, and the value of a field
may be a list at the column of its key. The bare tag `!` leaves a text without a tag. Every level
and every step takes a token, or is followed by one that does, so `fuel` need not exceed a small
multiple of the number of tokens. -/
def read? (fuel : Nat) (inBlock unindented : Bool) (reading : Reading) :
    Option (Node × Reading) :=
  match fuel with
  | 0 => none
  | fuel + 1 =>
    match reading.peek? with
    | some (.alias name) =>
      (reading.anchors.lookup name).map fun number => (.alias number, reading.next)
    | _ => do
      let (anchor, tag, reading) ← reading.properties?
      let entered := reading.enter anchor
      let list (items : Option (List Node × Reading)) : Option (Node × Reading) :=
        items.map fun (items, after) => (reading.mark anchor (.sequence tag items), after)
      let fields (fields : Option (List (Node × Node) × Reading)) : Option (Node × Reading) :=
        fields.map fun (fields, after) => (reading.mark anchor (.mapping tag fields), after)
      match reading.peek? with
      | some .item =>
        if unindented then list (readUnindented? fuel entered) else reading.emptyNode? anchor tag
      | some (.scalar text plain) =>
        return (reading.mark anchor (.scalar (tag.filter (· ≠ "!")) plain text), entered.next)
      | some .openBracket => list (readBrackets? fuel true entered.next)
      | some .openBrace => fields (readBraces? fuel true entered.next)
      | some .blockSequence =>
        if inBlock then list (readBlockItems? fuel entered.next)
        else reading.emptyNode? anchor tag
      | some .blockMapping =>
        if inBlock then fields (readBlockFields? fuel entered.next)
        else reading.emptyNode? anchor tag
      | _ => reading.emptyNode? anchor tag

/-- Reads the items of a list by indentation. -/
def readBlockItems? (fuel : Nat) (reading : Reading) : Option (List Node × Reading) :=
  match fuel with
  | 0 => none
  | fuel + 1 =>
    match reading.peek? with
    | some .item => do
      let (item, after) ← readUnless? fuel true false [.item, .blockEnd] reading.next
      let (items, after) ← readBlockItems? fuel after
      return (item :: items, after)
    | some .blockEnd => some ([], reading.next)
    | _ => none

/-- Reads the items of a list at the column of its key. -/
def readUnindented? (fuel : Nat) (reading : Reading) : Option (List Node × Reading) :=
  match fuel with
  | 0 => none
  | fuel + 1 =>
    match reading.peek? with
    | some .item => do
      let (item, after) ←
        readUnless? fuel true false [.item, .key, .value, .blockEnd] reading.next
      let (items, after) ← readUnindented? fuel after
      return (item :: items, after)
    | _ => some ([], reading)

/-- Reads the fields of a mapping by indentation. -/
def readBlockFields? (fuel : Nat) (reading : Reading) : Option (List (Node × Node) × Reading) :=
  match fuel with
  | 0 => none
  | fuel + 1 =>
    match reading.peek? with
    | some .key => do
      let (key, after) ← readUnless? fuel true true [.key, .value, .blockEnd] reading.next
      let (value, after) ←
        if after.peek? = some .value then
          readUnless? fuel true true [.key, .value, .blockEnd] after.next
        else some (missing, after)
      let (fields, after) ← readBlockFields? fuel after
      return ((key, value) :: fields, after)
    | some .blockEnd => some ([], reading.next)
    | _ => none

/-- Reads the items between brackets. A marked key makes a mapping of one field. -/
def readBrackets? (fuel : Nat) (first : Bool) (reading : Reading) :
    Option (List Node × Reading) :=
  match fuel with
  | 0 => none
  | fuel + 1 =>
    if reading.peek? = some .closeBracket then some ([], reading.next)
    else do
      let reading ←
        if first then some reading
        else if reading.peek? = some .comma then some reading.next else none
      match reading.peek? with
      | some .closeBracket => return ([], reading.next)
      | some .key =>
        let inside := reading.next
        let (key, after) ←
          if inside.nextIsAmong [.value, .comma, .closeBracket] then some (missing, inside.next)
          else read? fuel false false inside
        let (value, after) ←
          if after.peek? = some .value then
            readUnless? fuel false false [.comma, .closeBracket] after.next
          else some (missing, after)
        let (items, after) ← readBrackets? fuel false after
        return (.mapping none [(key, value)] :: items, after)
      | _ =>
        let (item, after) ← read? fuel false false reading
        let (items, after) ← readBrackets? fuel false after
        return (item :: items, after)

/-- Reads the fields between braces. A node without a marked key has no value. -/
def readBraces? (fuel : Nat) (first : Bool) (reading : Reading) :
    Option (List (Node × Node) × Reading) :=
  match fuel with
  | 0 => none
  | fuel + 1 =>
    if reading.peek? = some .closeBrace then some ([], reading.next)
    else do
      let reading ←
        if first then some reading
        else if reading.peek? = some .comma then some reading.next else none
      match reading.peek? with
      | some .closeBrace => return ([], reading.next)
      | some .key =>
        let (key, after) ← readUnless? fuel false false [.value, .comma, .closeBrace] reading.next
        let (value, after) ←
          if after.peek? = some .value then
            readUnless? fuel false false [.comma, .closeBrace] after.next
          else some (missing, after)
        let (fields, after) ← readBraces? fuel false after
        return ((key, value) :: fields, after)
      | _ =>
        let (key, after) ← read? fuel false false reading
        let (fields, after) ← readBraces? fuel false after
        return ((key, missing) :: fields, after)

/-- Reads a node, unless one of the given tokens shows that it is missing. -/
def readUnless? (fuel : Nat) (inBlock unindented : Bool) (ends : List Token) (reading : Reading) :
    Option (Node × Reading) :=
  match fuel with
  | 0 => none
  | fuel + 1 =>
    if reading.nextIsAmong ends then some (missing, reading)
    else read? fuel inBlock unindented reading

end

end Node

end Yaml

end AccessPolicy
