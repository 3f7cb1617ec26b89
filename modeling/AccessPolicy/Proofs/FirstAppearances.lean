import AccessPolicy.Proofs.Names
import AccessPolicy.Proofs.Rules
import Mathlib.Data.List.Induction

/-!
# First appearances

Adding names one after the other to a list without repetition keeps each of them where it appears
first, and parts may be freed from repetition before they are joined. So every node of a compiled
rule lists the placeholders of the leaves below it from left to right, though it joins what its
operands list, and the rule lists the names that its leaves refer to in the same order.
-/

namespace AccessPolicy

namespace Names

theorem extend_append (known front back : List String) :
    extend known (front ++ back) = extend (extend known front) back := List.foldl_append

/-- A last name is kept if it is new. -/
theorem extend_concat (known names : List String) (name : String) :
    extend known (names ++ [name]) =
      if name ∈ known ∨ name ∈ names then extend known names else extend known names ++ [name] := by
  have last (found : List String) :
      extend found [name] = if name ∈ found then found else found ++ [name] := rfl
  rw [extend_append, last]
  simp only [mem_extend]

/-- Names may be freed from repetition before they are added. -/
theorem extend_extend (known names : List String) :
    extend known (extend [] names) = extend known names := by
  induction names using List.reverseRecOn with
  | nil => rfl
  | append_singleton names name induction =>
    rw [extend_concat [], extend_concat known]
    by_cases old : name ∈ names
    · simp [old, induction]
    · simp [old, extend_concat, mem_extend, induction]

/-- A list keeps the members of `names`, each where it appears first. -/
structure FirstAppearances (kept names : List String) : Prop where
  /-- No member is lost and none is added. -/
  mem_iff : ∀ name, name ∈ kept ↔ name ∈ names
  /-- What is kept earlier appears earlier. -/
  ordered : kept.Pairwise fun first second => names.idxOf first < names.idxOf second

/-- No name is kept twice. -/
theorem FirstAppearances.nodup {kept names : List String} (keeps : FirstAppearances kept names) :
    kept.Nodup := by
  refine keeps.ordered.imp ?_
  rintro name other earlier rfl
  exact Nat.lt_irrefl _ earlier

/-- The first appearances among more names. -/
theorem FirstAppearances.concat {kept names : List String} (keeps : FirstAppearances kept names)
    (name : String) :
    FirstAppearances (if name ∈ names then kept else kept ++ [name]) (names ++ [name]) := by
  have kept_order : kept.Pairwise fun first second =>
      (names ++ [name]).idxOf first < (names ++ [name]).idxOf second := by
    refine keeps.ordered.imp_of_mem ?_
    intro first second first_kept second_kept earlier
    rwa [List.idxOf_append_of_mem ((keeps.mem_iff first).1 first_kept),
      List.idxOf_append_of_mem ((keeps.mem_iff second).1 second_kept)]
  split
  next old =>
    refine ⟨fun other => ?_, kept_order⟩
    rw [keeps.mem_iff, List.mem_append, List.mem_singleton]
    exact ⟨Or.inl, fun member => member.elim id fun same => same ▸ old⟩
  next new =>
    refine ⟨fun other => by simp [keeps.mem_iff], ?_⟩
    refine List.pairwise_append.2 ⟨kept_order, List.pairwise_singleton _ _, ?_⟩
    intro first first_kept second last
    obtain rfl := List.mem_singleton.1 last
    have member := (keeps.mem_iff first).1 first_kept
    rw [List.idxOf_append_of_mem member, List.idxOf_append_of_notMem new]
    have bound := List.idxOf_lt_length_of_mem member
    omega

/-- Adding names to none keeps their first appearances. -/
theorem firstAppearances_extend (names : List String) :
    FirstAppearances (extend [] names) names := by
  induction names using List.reverseRecOn with
  | nil => exact ⟨fun _ => Iff.rfl, .nil⟩
  | append_singleton names name induction =>
    have more := induction.concat name
    rw [extend_concat]
    simpa using more

end Names

/-! ## References -/

/-- A leaf refers to a rule by the text `rule:` and the name, which is not empty. -/
theorem Text.referencedRule?_eq_some_iff {text name : String} :
    referencedRule? text = some name ↔ name ≠ "" ∧ text = "rule:" ++ name := by
  constructor
  · intro refers
    unfold referencedRule? at refers
    split at refers
    next characters listed =>
      split at refers
      next => cases refers
      next named =>
        cases refers
        refine ⟨by simpa using named, ?_⟩
        rw [← String.toList_inj, listed]
        simp
    next => cases refers
  · rintro ⟨named, rfl⟩
    exact referencedRule?_append named

/-! ## Nodes -/

/-- The nodes of a tree: the tree itself and the nodes of its operands. -/
inductive Node.Within (node : Node) : Node → Prop
  /-- The whole tree. -/
  | whole : node.Within node
  /-- A node of the left operand. -/
  | left {joint : Operator} {left : Node} {right : Option Node} {parameters : List String}
      (inside : node.Within left) : node.Within (.operator joint (some left) right parameters)
  /-- A node of the right operand. -/
  | right {joint : Operator} {left : Option Node} {right : Node} {parameters : List String}
      (inside : node.Within right) : node.Within (.operator joint left (some right) parameters)

namespace Derivation

variable {level : GrammarLevel}

/-- Every node of a derived tree is a derived tree. -/
theorem exists_tree_eq_of_within (derivation : Derivation level) {node : Node}
    (inside : node.Within derivation.tree) :
    ∃ (lower : GrammarLevel) (inner : Derivation lower), inner.tree = node := by
  induction derivation with
  | expression text =>
    cases inside with
    | whole => exact ⟨_, .expression text, rfl⟩
  | grouped _ _ _ _ _ induction | plain _ induction | lastConjunct _ induction
  | lastDisjunct _ induction => exact induction inside
  | negated negator operand negates induction =>
    cases inside with
    | whole => exact ⟨_, .negated negator operand negates, rfl⟩
    | right inside => exact induction inside
  | conjoined left joint right joins left_induction right_induction =>
    cases inside with
    | whole => exact ⟨_, .conjoined left joint right joins, rfl⟩
    | left inside => exact left_induction inside
    | right inside => exact right_induction inside
  | disjoined left joint right joins left_induction right_induction =>
    cases inside with
    | whole => exact ⟨_, .disjoined left joint right joins, rfl⟩
    | left inside => exact left_induction inside
    | right inside => exact right_induction inside

/-- A derived tree lists the placeholders of its leaves from left to right, without repetition. -/
theorem parameters_tree (derivation : Derivation level) :
    derivation.tree.parameters =
      Names.extend [] (derivation.tree.leaves.flatMap Text.occurrences) := by
  induction derivation with
  | expression text =>
    simp only [tree, Node.expression, Node.parameters, Node.leaves, List.flatMap_singleton,
      Text.placeholders, Text.filterMap_path?_segments]
  | grouped _ _ _ _ _ induction | plain _ induction | negated _ _ _ induction
  | lastConjunct _ induction | lastDisjunct _ induction => exact induction
  | conjoined left joint right joins left_listed right_listed
  | disjoined left joint right joins left_listed right_listed =>
    simp only [tree, Node.conjunction, Node.disjunction, Node.binary, Node.parameters,
      Node.leaves, List.flatMap_append] at *
    rw [left_listed, right_listed, Names.extend_extend, Names.extend_append]

end Derivation

namespace CompiledRule

/-- What compiled rule text lists is exact. Every node has just the operands of its operator and
lists the placeholders of the leaves below it where they appear first. The rule lists the same paths
as its root, strictly sorted by their bytes, and the names that its leaves refer to where they
appear first. -/
theorem lists_first_appearances {text : String} {rule : CompiledRule}
    (compiles : ofText text = .ok rule) :
    (∀ node : Node, node.Within rule.tree → node.Complete ∧
      Names.FirstAppearances node.parameters (node.leaves.flatMap Text.occurrences)) ∧
    rule.parameters.Pairwise (fun first second => Text.bytes first < Text.bytes second) ∧
    (∀ path, path ∈ rule.parameters ↔ ∃ leaf ∈ rule.tree.leaves, Text.Occurs path leaf) ∧
    (∀ name, name ∈ rule.references ↔ name ≠ "" ∧ "rule:" ++ name ∈ rule.tree.leaves) ∧
    rule.references.Nodup ∧
    Names.FirstAppearances rule.references
      (rule.tree.leaves.filterMap Text.referencedRule?) := by
  obtain ⟨tree, parsed, rfl⟩ := ofLexemes_eq_ok_iff.1 compiles
  obtain ⟨derivation, -, rfl⟩ := Node.parse_eq_ok_iff.1 parsed
  have refers := Names.firstAppearances_extend
    (derivation.tree.leaves.filterMap Text.referencedRule?)
  refine ⟨?_, Names.pairwise_bytes_sorted _, fun path => ?_, fun name => ?_, refers.nodup, refers⟩
  · intro node inside
    obtain ⟨level, inner, rfl⟩ := derivation.exists_tree_eq_of_within inside
    refine ⟨inner.complete_tree, ?_⟩
    rw [inner.parameters_tree]
    exact Names.firstAppearances_extend _
  · exact Names.mem_sorted.trans derivation.mem_parameters_tree
  · rw [mem_references_ofTree]
    simp only [Text.referencedRule?_eq_some_iff]
    constructor
    · rintro ⟨_, member, named, rfl⟩
      exact ⟨named, member⟩
    · rintro ⟨named, member⟩
      exact ⟨_, member, named, rfl⟩

/-- The derivation of a rule that repeats a reference and a placeholder. -/
def repeatingRule : Derivation .disjunction :=
  .disjoined (.lastConjunct (.plain (.expression "rule:b"))) (.operator "OR")
    (.disjoined
      (.conjoined (.plain (.expression "role:%(z)s%(a)s")) (.operator "AND")
        (.lastConjunct (.negated (.operator "NOT") (.plain (.expression "rule:%(z)s")) rfl)) rfl)
      (.operator "OR") (.lastDisjunct (.lastConjunct (.plain (.expression "rule:b")))) rfl)
    rfl

theorem lists_first_appearances_repeated :
    ofText "rule:b OR role:%(z)s%(a)s AND NOT rule:%(z)s OR rule:b" =
        .ok (ofTree repeatingRule.tree) ∧
      Names.FirstAppearances ["z", "a"] ["z", "a", "z"] ∧
      ["a", "z"].Pairwise (fun first second => Text.bytes first < Text.bytes second) ∧
      Names.FirstAppearances ["b", "%(z)s"] ["b", "%(z)s", "b"] := by
  have lexemes : repeatingRule.lexemes =
      Lexeme.ofText "rule:b OR role:%(z)s%(a)s AND NOT rule:%(z)s OR rule:b" := by
    decide +kernel
  have compiles : ofText "rule:b OR role:%(z)s%(a)s AND NOT rule:%(z)s OR rule:b" =
      .ok (ofTree repeatingRule.tree) := by
    rw [ofText, ← lexemes, ofLexemes_lexemes]
  have root : repeatingRule.tree.parameters = ["z", "a"] := by decide +kernel
  have met : repeatingRule.tree.leaves.flatMap Text.occurrences = ["z", "a", "z"] := by
    decide +kernel
  have paths : (ofTree repeatingRule.tree).parameters = ["a", "z"] := by decide +kernel
  have names : (ofTree repeatingRule.tree).references = ["b", "%(z)s"] := by decide +kernel
  have referred : repeatingRule.tree.leaves.filterMap Text.referencedRule? =
      ["b", "%(z)s", "b"] := by
    decide +kernel
  obtain ⟨nodes, sorted, -, -, -, ordered⟩ := lists_first_appearances compiles
  obtain ⟨-, listed⟩ := nodes _ .whole
  rw [paths] at sorted
  rw [names] at ordered
  refine ⟨compiles, ?_, sorted, ?_⟩
  · rw [← root, ← met]
    exact listed
  · rw [← referred]
    exact ordered

end CompiledRule

end AccessPolicy
