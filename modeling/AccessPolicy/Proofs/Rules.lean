import AccessPolicy.Engine.Basic
import AccessPolicy.Proofs.Grammar.Reading
import AccessPolicy.Proofs.Placeholders
import AccessPolicy.Proofs.Traversals

/-!
# Rules of an engine

Every rule of an engine is compiled from a derivation. So it lists the placeholders of its leaves
and no other paths, it refers to the names of its leaves `rule:name`, and its tree lacks no operand.
-/

namespace AccessPolicy

/-- A tree lists the paths of the placeholders that stand in its leaves. -/
theorem Derivation.mem_parameters_tree {level : GrammarLevel} (derivation : Derivation level)
    {path : String} :
    path ∈ derivation.tree.parameters ↔
      ∃ text ∈ derivation.tree.leaves, Text.Occurs path text := by
  induction derivation with
  | expression text =>
    simp [tree, Node.expression, Node.parameters, Node.leaves, Text.mem_placeholders_iff]
  | grouped _ _ _ _ _ induction | plain _ induction | negated _ _ _ induction
  | lastConjunct _ induction | lastDisjunct _ induction => exact induction
  | conjoined left joint right joins left_listed right_listed
  | disjoined left joint right joins left_listed right_listed =>
    simp only [tree, Node.conjunction, Node.disjunction, Node.binary, Node.parameters,
      Node.leaves, Names.mem_extend, List.mem_append, or_and_right, exists_or] at *
    rw [left_listed, right_listed]

/-- A derived tree lacks no operand. -/
theorem Derivation.complete_tree {level : GrammarLevel} (derivation : Derivation level) :
    derivation.tree.Complete := by
  induction derivation with
  | expression text => trivial
  | grouped _ _ _ _ _ induction | plain _ induction | negated _ _ _ induction
  | lastConjunct _ induction | lastDisjunct _ induction => exact induction
  | conjoined left joint right joins left_complete right_complete
  | disjoined left joint right joins left_complete right_complete =>
    exact ⟨left_complete, right_complete⟩

theorem Text.referencedRule?_append {value : String} (named : value ≠ "") :
    referencedRule? ("rule:" ++ value) = some value := by
  have nonempty : value.toList.isEmpty = false := by
    simpa using named
  simp [referencedRule?, nonempty]

namespace CompiledRule

theorem mem_references_ofTree {tree : Node} {reference : String} :
    reference ∈ (ofTree tree).references ↔
      ∃ text ∈ tree.leaves, Text.referencedRule? text = some reference := by
  simp [ofTree, Names.mem_extend]

end CompiledRule

namespace Configuration

/-- A configuration compiles to the rules of its entries, in order. -/
theorem compile_eq_ok_iff {configuration : Configuration} {rules : Entries CompiledRule} :
    configuration.compile = .ok rules ↔
      List.Forall₂ (fun given entry => compileRule given = .ok entry) configuration.entries
        rules :=
  Traversal.mapM_eq_ok_iff

theorem compileRule_eq_ok_iff_ofText {rule : String × String} {entry : String × CompiledRule} :
    compileRule rule = .ok entry ↔
      rule.1 = entry.1 ∧ CompiledRule.ofText rule.2 = .ok entry.2 := by
  obtain ⟨name, compiled⟩ := entry
  rw [compileRule]
  cases CompiledRule.ofText rule.2 with
  | ok other => simp
  | error cause => simp

/-- A rule compiles if its lexemes have a derivation, and to the rule of the derived tree. -/
theorem compileRule_eq_ok_iff {rule : String × String} {entry : String × CompiledRule} :
    compileRule rule = .ok entry ↔
      rule.1 = entry.1 ∧ ∃ derivation : Derivation .disjunction,
        derivation.lexemes = Lexeme.ofText rule.2 ∧
          CompiledRule.ofTree derivation.tree = entry.2 := by
  have derived : CompiledRule.ofText rule.2 = .ok entry.2 ↔
      ∃ derivation : Derivation .disjunction,
        derivation.lexemes = Lexeme.ofText rule.2 ∧
          CompiledRule.ofTree derivation.tree = entry.2 := by
    rw [CompiledRule.ofText, CompiledRule.ofLexemes_eq_ok_iff]
    simp only [Node.parse_eq_ok_iff]
    constructor
    · rintro ⟨_, ⟨derivation, yields, rfl⟩, same⟩
      exact ⟨derivation, yields, same⟩
    · rintro ⟨derivation, yields, same⟩
      exact ⟨_, ⟨derivation, yields, rfl⟩, same⟩
  rw [compileRule_eq_ok_iff_ofText, derived]

/-- Every compiled rule comes from an entry of the configuration. -/
theorem exists_compileRule_of_mem {configuration : Configuration} {rules : Entries CompiledRule}
    (compiles : configuration.compile = .ok rules) {entry : String × CompiledRule}
    (member : entry ∈ rules) : ∃ given, compileRule given = .ok entry := by
  rw [compile_eq_ok_iff] at compiles
  generalize configuration.entries = entries at compiles
  induction compiles with
  | nil => cases member
  | cons first _ induction =>
    rcases List.mem_cons.1 member with rfl | later
    · exact ⟨_, first⟩
    · exact induction later

end Configuration

namespace Engine

/-- Every rule of an engine comes from a derivation. -/
theorem exists_derivation_of_mem_rules {engine : Engine} {entry : String × CompiledRule}
    (member : entry ∈ engine.rules) :
    ∃ derivation : Derivation .disjunction, CompiledRule.ofTree derivation.tree = entry.2 := by
  obtain ⟨given, compiles⟩ := Configuration.exists_compileRule_of_mem engine.compiled member
  obtain ⟨-, derivation, -, same⟩ := Configuration.compileRule_eq_ok_iff.1 compiles
  exact ⟨derivation, same⟩

/-- A rule lists what its leaves spell, but for the empty name. -/
theorem mem_references_of_leaf {engine : Engine} {entry : String × CompiledRule} {value : String}
    (configured : entry ∈ engine.rules) (member : "rule:" ++ value ∈ entry.2.tree.leaves)
    (named : value ≠ "") : value ∈ entry.2.references := by
  obtain ⟨derivation, same⟩ := exists_derivation_of_mem_rules configured
  rw [← same] at member ⊢
  exact CompiledRule.mem_references_ofTree.2 ⟨_, member, Text.referencedRule?_append named⟩

/-- No tree of an engine lacks an operand. -/
theorem complete_tree_of_mem_rules {engine : Engine} {entry : String × CompiledRule}
    (member : entry ∈ engine.rules) : entry.2.tree.Complete := by
  obtain ⟨derivation, same⟩ := exists_derivation_of_mem_rules member
  rw [← same]
  exact derivation.complete_tree

end Engine

end AccessPolicy
