import AccessPolicy.Yaml.Layout
import AccessPolicy.Yaml.Node
import AccessPolicy.Yaml.Scalar

/-!
# Values of YAML documents

A text holds at most one document, and its value is a JSON value: keys are taken as they are
written, the last of several fields with one key counts, and an empty document is null. At most
128 collections may be nested, and references may be followed a hundred times as often as there
are nodes.
-/

namespace AccessPolicy

namespace Yaml

/-- The greatest number of nested lists and mappings. -/
def greatestDepth : Nat := 128

namespace Node

/-- The node without its anchor. -/
def bare : Node → Node
  | .anchored _ node => node.bare
  | node => node

/-- What a node stands for among nodes with numbers, and the number of references that are still
allowed. -/
def follow? (targets : List (Nat × Node)) (jumps : Nat) (node : Node) : Option (Node × Nat) :=
  match node.bare, jumps with
  | .alias _, 0 => none
  | .alias number, jumps + 1 => (targets.lookup number).map fun target => (target.bare, jumps)
  | node, jumps => some (node, jumps)

/-- The text of a key, and the number of references that are still allowed. -/
def keyText? (targets : List (Nat × Node)) (jumps : Nat) (key : Node) : Option (String × Nat) :=
  match key.follow? targets jumps with
  | some (.scalar _ _ text, jumps) => some (text, jumps)
  | _ => none

/-- Whether a tag is local to the document. -/
def isLocalTag (tag : Option String) : Bool := tag.any fun tag => tag.startsWith "!"

/-- The values of the items of a list, given the value of each. -/
def itemValues? (value? : Nat → Node → Option (Json × Nat)) (jumps : Nat) :
    List Node → Option (List Json × Nat)
  | [] => some ([], jumps)
  | item :: rest => do
    let (value, jumps) ← value? jumps item
    let (values, jumps) ← itemValues? value? jumps rest
    return (value :: values, jumps)

/-- The values of the fields of a mapping, given the text of each key and the value of each
node. -/
def fieldValues? (keyText? : Nat → Node → Option (String × Nat))
    (value? : Nat → Node → Option (Json × Nat)) (jumps : Nat) :
    List (Node × Node) → Option (Entries Json × Nat)
  | [] => some ([], jumps)
  | (key, value) :: rest => do
    let (key, jumps) ← keyText? jumps key
    let (value, jumps) ← value? jumps value
    let (fields, jumps) ← fieldValues? keyText? value? jumps rest
    return ((key, value) :: fields, jumps)

/-- The value of a node with at most the given depth of collections, and the number of references
that are still allowed. A node that contains a reference to itself has no finite depth. -/
def value? (targets : List (Nat × Node)) (depth jumps : Nat) (node : Node) :
    Option (Json × Nat) :=
  match depth, node.follow? targets jumps with
  | _, some (.scalar tag plain text, jumps) =>
    (Scalar.value? tag plain text).map fun value => (value, jumps)
  | depth + 1, some (.sequence tag items, jumps) =>
    if isLocalTag tag then none
    else
      (itemValues? (value? targets depth) jumps items).map fun (items, jumps) =>
        (.array items, jumps)
  | depth + 1, some (.mapping tag fields, jumps) =>
    if isLocalTag tag then none
    else
      (fieldValues? (keyText? targets) (value? targets depth) jumps fields).map
        fun (fields, jumps) => (.ofFields fields, jumps)
  | _, _ => none

end Node

/-- The handles that every document knows. -/
def standardHandles : List (String × String) := [("!", "!"), ("!!", "tag:yaml.org,2002:")]

/-- The directives before a document, as the handles that they declare, and the tokens after
them. A version is given at most once and is 1.1 or 1.2; a handle is declared at most once. -/
def directives? (versioned : Bool) (handles : List (String × String)) :
    List Token → Option (List (String × String) × List Token)
  | .version major minor :: rest =>
    if !versioned ∧ major = 1 ∧ (minor = 1 ∨ minor = 2) then directives? true handles rest
    else none
  | .handle name base :: rest =>
    if (handles.lookup name).isSome then none
    else directives? versioned ((name, base) :: handles) rest
  | rest => some (handles, rest)

/-- Whether a document starts with directives or with its mark. -/
def isExplicit : List Token → Bool
  | .version .. :: _ | .handle .. :: _ | .documentStart :: _ => true
  | _ => false

/-- The node of a document after its mark; nothing may follow but marks of its end. -/
def root? (handles : List (String × String)) (tokens : List Token) : Option Node :=
  let known := handles ++ standardHandles.filter fun (name, _) => (handles.lookup name).isNone
  let isMark (token : Token) : Bool := token == .documentEnd
  match tokens with
  | [] => some .missing
  | .documentEnd :: rest => if rest.all isMark then some .missing else none
  | _ => do
    let (node, after) ← Node.read? (8 * tokens.length + 8) true false { tokens, handles := known }
    if after.tokens.all isMark then return node else none

/-- The node of a text, `none` for a text without a document. -/
def document? (tokens : List Token) : Option (Option Node) :=
  if tokens.isEmpty then some none
  else if isExplicit tokens then do
    let (handles, rest) ← directives? false [] tokens
    match rest with
    | .documentStart :: rest => (root? handles rest).map some
    | _ => none
  else
    match tokens with
    | .documentEnd :: _ => none
    | _ => (root? [] tokens).map some

/-- The value that a text holds, `none` if the text is not one document. -/
def parse? (text : String) : Option Json := do
  let tokens ← tokens? text.toList
  match ← document? tokens with
  | none => return .null
  | some node =>
    let targets := node.anchoredNodes.reverse
    let (value, _) ← node.value? targets greatestDepth (100 * node.eventCount)
    return value

end Yaml

end AccessPolicy
