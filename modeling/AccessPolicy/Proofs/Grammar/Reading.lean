import AccessPolicy.Proofs.Grammar.Derivation
import AccessPolicy.Rule.Compiled

/-!
# Reading derivations

Reading succeeds on one level of the grammar exactly on the lexemes of a derivation, followed by
lexemes that do not go on with it, and gives the tree of that derivation. So the rules that parse
are the derived ones.
-/

namespace AccessPolicy

open Lexeme (Rest startsWith)

namespace GrammarLevel

theorem startsWith_eq_false {level : GrammarLevel} {lexemes : List Lexeme}
    (stops : level.Stops lexemes) (word : OperatorWord) (joins : level.joins word = true) :
    startsWith word lexemes = false := by
  rw [startsWith, beq_eq_false_iff_ne]
  intro starts
  rw [stops word starts] at joins
  cases joins

end GrammarLevel

namespace Lexeme

theorem startsWith_cons {lexeme : Lexeme} {word : OperatorWord} {rest : List Lexeme}
    (spells : lexeme.word? = some word) : startsWith word (lexeme :: rest) = true := by
  simp [startsWith, spells]

theorem exists_cons_of_startsWith {word : OperatorWord} {lexemes : List Lexeme}
    (starts : startsWith word lexemes = true) :
    ∃ lexeme rest, lexemes = lexeme :: rest ∧ lexeme.word? = some word := by
  cases lexemes with
  | nil => cases starts
  | cons lexeme rest => exact ⟨lexeme, rest, rfl, eq_of_beq starts⟩

end Lexeme

namespace Node

/-- What is read on a level comes from a derivation, and the rest is what follows it. -/
theorem exists_derivation_of_read {level : GrammarLevel} {lexemes : List Lexeme} {tree : Node}
    {rest : Rest lexemes} (result : read level lexemes = .ok (tree, rest)) :
    ∃ derivation : Derivation level,
      derivation.tree = tree ∧ derivation.lexemes ++ rest.1 = lexemes := by
  -- The cases that fail are those whose result is an error.
  fun_induction read level lexemes generalizing tree with
  | case1 | case2 | case5 | case6 | case9 | case12 | case14 | case16 | case17 => cases result
  | case3 lexemes left rest shorter left_result joined _ right tail next right_result
      left_derived right_derived =>
    cases result
    obtain ⟨leftDerivation, rfl, left_lexemes⟩ := left_derived left_result
    obtain ⟨rightDerivation, rfl, right_lexemes⟩ := right_derived right_result
    obtain ⟨joint, further, rfl, joins⟩ := Lexeme.exists_cons_of_startsWith joined
    refine ⟨.disjoined leftDerivation joint rightDerivation joins, rfl, ?_⟩
    rw [Derivation.lexemes, List.append_assoc, List.cons_append, right_lexemes, List.tail_cons]
    exact left_lexemes
  | case4 lexemes left rest shorter left_result _ left_derived =>
    cases result
    obtain ⟨derivation, rfl, derived⟩ := left_derived left_result
    exact ⟨.lastDisjunct derivation, rfl, derived⟩
  | case7 lexemes left rest shorter left_result joined _ right tail next right_result
      left_derived right_derived =>
    cases result
    obtain ⟨leftDerivation, rfl, left_lexemes⟩ := left_derived left_result
    obtain ⟨rightDerivation, rfl, right_lexemes⟩ := right_derived right_result
    obtain ⟨joint, further, rfl, joins⟩ := Lexeme.exists_cons_of_startsWith joined
    refine ⟨.conjoined leftDerivation joint rightDerivation joins, rfl, ?_⟩
    rw [Derivation.lexemes, List.append_assoc, List.cons_append, right_lexemes, List.tail_cons]
    exact left_lexemes
  | case8 lexemes left rest shorter left_result _ left_derived =>
    cases result
    obtain ⟨derivation, rfl, derived⟩ := left_derived left_result
    exact ⟨.lastConjunct derivation, rfl, derived⟩
  | case10 lexemes negated _ operand tail next operand_result operand_derived =>
    cases result
    obtain ⟨derivation, rfl, derived⟩ := operand_derived operand_result
    obtain ⟨negator, further, rfl, negates⟩ := Lexeme.exists_cons_of_startsWith negated
    refine ⟨.negated negator derivation negates, rfl, ?_⟩
    rw [Derivation.lexemes, List.cons_append, derived, List.tail_cons]
  | case11 lexemes _ operand_derived =>
    obtain ⟨derivation, rfl, derived⟩ := operand_derived result
    exact ⟨.plain derivation, rfl, derived⟩
  | case13 first rest atomic =>
    cases result
    refine ⟨.expression first.text, rfl, ?_⟩
    rw [Derivation.lexemes, ← Lexeme.eq_expression atomic, List.singleton_append]
  | case15 first rest _ opens inner tail shorter inner_result closed inner_derived =>
    cases result
    obtain ⟨derivation, rfl, derived⟩ := inner_derived inner_result
    obtain ⟨closing, further, rfl, closes⟩ := Lexeme.exists_cons_of_startsWith closed
    refine ⟨.grouped first derivation closing opens closes, rfl, ?_⟩
    rw [Derivation.lexemes, List.cons_append, List.append_assoc]
    exact congrArg (first :: ·) derived

/-- A derivation is read back, up to where its level stops. -/
theorem read_lexemes_append {level : GrammarLevel} (derivation : Derivation level)
    {rest : List Lexeme} (stops : level.Stops rest) :
    ∃ shorter,
      read level (derivation.lexemes ++ rest) = .ok (derivation.tree, ⟨rest, shorter⟩) := by
  induction derivation generalizing rest with
  | expression text =>
    rw [Derivation.lexemes, List.singleton_append, read,
      if_pos (Lexeme.isExpression_expression text)]
    exact ⟨_, rfl⟩
  | grouped opening inner closing opens closes induction =>
    have inner_stops : GrammarLevel.disjunction.Stops (closing :: rest) :=
      (GrammarLevel.stops_cons closes).2 rfl
    obtain ⟨shorter, inner_reads⟩ := induction inner_stops
    rw [Derivation.lexemes, List.cons_append, List.append_assoc, List.singleton_append, read,
      if_neg (Lexeme.isExpression_of_word? opens ▸ Bool.false_ne_true), if_pos opens, inner_reads]
    simp only [Lexeme.startsWith_cons closes]
    exact ⟨Nat.lt_succ_of_lt (Nat.lt_trans (Nat.lt_add_one _) shorter), rfl⟩
  | plain operand induction =>
    obtain ⟨shorter, operand_reads⟩ := induction (GrammarLevel.stops_operand rest)
    rw [Derivation.lexemes, read, dif_neg, operand_reads]
    · exact ⟨shorter, rfl⟩
    · intro negated
      obtain ⟨negator, tail, split, negates⟩ := Lexeme.exists_cons_of_startsWith negated
      exact operand.word?_ne_not_of_operand split negates
  | negated negator operand negates induction =>
    obtain ⟨shorter, operand_reads⟩ := induction (GrammarLevel.stops_negation rest)
    rw [Derivation.lexemes, List.cons_append, read, dif_pos (Lexeme.startsWith_cons negates)]
    simp only [List.tail_cons, operand_reads]
    exact ⟨Nat.lt_succ_of_lt shorter, rfl⟩
  | lastConjunct operand induction =>
    obtain ⟨shorter, operand_reads⟩ := induction (GrammarLevel.stops_negation rest)
    have ended := GrammarLevel.startsWith_eq_false stops .and rfl
    rw [Derivation.lexemes, read, operand_reads]
    simp only [ended]
    exact ⟨shorter, rfl⟩
  | conjoined left joint right joins left_reads right_reads =>
    obtain ⟨left_shorter, left_reads⟩ := left_reads
      (GrammarLevel.stops_negation (joint :: (right.lexemes ++ rest)))
    obtain ⟨right_shorter, right_reads⟩ := right_reads stops
    rw [Derivation.lexemes, List.append_assoc, List.cons_append, read, left_reads]
    simp only [Lexeme.startsWith_cons joins, List.tail_cons, right_reads]
    exact ⟨Nat.lt_trans right_shorter (Nat.lt_trans (Nat.lt_add_one _) left_shorter), rfl⟩
  | lastDisjunct operand induction =>
    obtain ⟨shorter, operand_reads⟩ := induction stops.conjunction
    have ended := GrammarLevel.startsWith_eq_false stops .or rfl
    rw [Derivation.lexemes, read, operand_reads]
    simp only [ended]
    exact ⟨shorter, rfl⟩
  | disjoined left joint right joins left_reads right_reads =>
    have left_stops : GrammarLevel.conjunction.Stops (joint :: (right.lexemes ++ rest)) :=
      (GrammarLevel.stops_cons joins).2 rfl
    obtain ⟨left_shorter, left_reads⟩ := left_reads left_stops
    obtain ⟨right_shorter, right_reads⟩ := right_reads stops
    rw [Derivation.lexemes, List.append_assoc, List.cons_append, read, left_reads]
    simp only [Lexeme.startsWith_cons joins, List.tail_cons, right_reads]
    exact ⟨Nat.lt_trans right_shorter (Nat.lt_trans (Nat.lt_add_one _) left_shorter), rfl⟩

/-- The trees that are read without anything left over are those of derivations. -/
theorem readWhole_eq_ok_iff {lexemes : List Lexeme} {tree : Node} :
    readWhole lexemes = .ok tree ↔
      ∃ derivation : Derivation .disjunction,
        derivation.lexemes = lexemes ∧ derivation.tree = tree := by
  constructor
  · intro whole
    unfold readWhole at whole
    split at whole
    next => cases whole
    next tree rest shorter result =>
      obtain ⟨derivation, rfl, derived⟩ := exists_derivation_of_read result
      cases rest with
      | nil =>
        cases whole
        exact ⟨derivation, (List.append_nil _).symm.trans derived, rfl⟩
      | cons extra further => cases whole
  · rintro ⟨derivation, rfl, rfl⟩
    have reads := read_lexemes_append derivation (GrammarLevel.stops_nil .disjunction)
    rw [List.append_nil] at reads
    obtain ⟨shorter, reads⟩ := reads
    rw [readWhole, reads]

/-- The grammar agrees with what is taken without it. -/
theorem readWhole_expression (text : String) :
    readWhole [Lexeme.expression text] = .ok (expression text) :=
  readWhole_eq_ok_iff.2 ⟨.ofOperand (.expression text), rfl, rfl⟩

theorem parse_of_fault?_eq_none {lexemes : List Lexeme} (clear : Lexeme.fault? lexemes = none) :
    parse lexemes = readWhole lexemes := by
  simp only [parse, clear]
  split
  next text => exact (readWhole_expression text).symm
  next => rfl

/-- The trees that parse are those of derivations. -/
theorem parse_eq_ok_iff {lexemes : List Lexeme} {tree : Node} :
    parse lexemes = .ok tree ↔
      ∃ derivation : Derivation .disjunction,
        derivation.lexemes = lexemes ∧ derivation.tree = tree := by
  cases clear : Lexeme.fault? lexemes with
  | none => rw [parse_of_fault?_eq_none clear, readWhole_eq_ok_iff]
  | some fault =>
    unfold parse
    rw [clear]
    constructor
    · nofun
    · rintro ⟨derivation, rfl, -⟩
      rw [derivation.fault?_lexemes] at clear
      cases clear

end Node

namespace CompiledRule

theorem ofLexemes_eq_ok_iff {lexemes : List Lexeme} {rule : CompiledRule} :
    ofLexemes lexemes = .ok rule ↔ ∃ tree, Node.parse lexemes = .ok tree ∧ ofTree tree = rule := by
  rw [ofLexemes]
  cases Node.parse lexemes with
  | error error => simp [Except.map]
  | ok tree => simp [Except.map]

/-- A derived list compiles to the rule of the derived tree. -/
theorem ofLexemes_lexemes (derivation : Derivation .disjunction) :
    ofLexemes derivation.lexemes = .ok (ofTree derivation.tree) :=
  ofLexemes_eq_ok_iff.2 ⟨_, Node.parse_eq_ok_iff.2 ⟨derivation, rfl, rfl⟩, rfl⟩

theorem ofLexemes_expression (text : String) :
    ofLexemes [.expression text] = .ok (ofTree (.expression text)) :=
  ofLexemes_lexemes (.ofOperand (.expression text))

theorem ofLexemes_eq_error_iff {lexemes : List Lexeme} {error : SyntaxError} :
    ofLexemes lexemes = .error error ↔ Node.parse lexemes = .error error := by
  rw [ofLexemes]
  cases Node.parse lexemes with
  | error other => simp [Except.map]
  | ok tree => simp [Except.map]

end CompiledRule

end AccessPolicy
