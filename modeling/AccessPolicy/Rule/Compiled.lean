import AccessPolicy.Rule.Parse

/-!
# Compiled rules

A compiled rule is a syntax tree with the placeholder paths that it reads, strictly sorted, and
the names of the rules that its leaves refer to, in order of first appearance.
-/

namespace AccessPolicy

/-- The rule that a leaf `rule:name` refers to. -/
def Text.referencedRule? (text : String) : Option String :=
  match text.toList with
  | 'r' :: 'u' :: 'l' :: 'e' :: ':' :: name =>
    if name.isEmpty then none else some (String.ofList name)
  | _ => none

/-- A syntax tree with what it needs from its surroundings. -/
structure CompiledRule where
  /-- The syntax tree. -/
  tree : Node
  /-- The placeholder paths that the root lists, strictly sorted. -/
  parameters : List String
  /-- The names of the rules that leaves refer to, in order of first appearance. -/
  references : List String
  deriving Repr

namespace CompiledRule

/-- The compiled rule of a tree. -/
def ofTree (tree : Node) : CompiledRule where
  tree := tree
  parameters := Names.sorted tree.parameters
  references := Names.extend [] (tree.leaves.filterMap Text.referencedRule?)

/-- The compiled rule of a list of lexemes. -/
def ofLexemes (lexemes : List Lexeme) : Except SyntaxError CompiledRule :=
  (Node.parse lexemes).map ofTree

/-- The compiled rule of rule text. -/
def ofText (text : String) : Except SyntaxError CompiledRule := ofLexemes (Lexeme.ofText text)

end CompiledRule

end AccessPolicy
