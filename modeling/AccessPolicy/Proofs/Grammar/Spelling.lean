import AccessPolicy.Proofs.Grammar.Refusals

/-!
# Spellings of operators

Parsing looks only at the operator that a lexeme stands for. So a list compiles to the same rule, or
is refused for the same reason, when each of its operators is put in lower case; only the operator
that an error shows is another.
-/

namespace AccessPolicy

theorem OperatorWord.ofText?_text (word : OperatorWord) : ofText? word.text = some word := by
  cases word <;> decide

namespace Lexeme

variable {lexemes front : List Lexeme} {lexeme found : Lexeme} {error : SyntaxError}

/-- The lexeme with its operator in lower case. -/
def lowered (lexeme : Lexeme) : Lexeme :=
  match lexeme.word? with
  | some word => operator word.text
  | none => lexeme

theorem lowered_of_word? {word : OperatorWord} (spells : lexeme.word? = some word) :
    lexeme.lowered = operator word.text := by
  rw [lowered, spells]

theorem lowered_of_word?_eq_none (spells : lexeme.word? = none) : lexeme.lowered = lexeme := by
  rw [lowered, spells]

@[simp] theorem lowered_expression (text : String) : (expression text).lowered = expression text :=
  rfl

@[simp] theorem word?_lowered (lexeme : Lexeme) : lexeme.lowered.word? = lexeme.word? := by
  cases spells : lexeme.word? with
  | some word =>
    rw [lowered_of_word? spells]
    exact word.ofText?_text
  | none => rw [lowered_of_word?_eq_none spells, spells]

@[simp] theorem isExpression_lowered (lexeme : Lexeme) :
    lexeme.lowered.isExpression = lexeme.isExpression := by
  cases spells : lexeme.word? with
  | some word =>
    rw [lowered_of_word? spells, isExpression_of_word? spells]
    rfl
  | none => rw [lowered_of_word?_eq_none spells]

@[simp] theorem lowered_lowered (lexeme : Lexeme) : lexeme.lowered.lowered = lexeme.lowered := by
  cases spells : lexeme.word? with
  | some word =>
    rw [lowered_of_word? spells]
    exact lowered_of_word? word.ofText?_text
  | none => rw [lowered_of_word?_eq_none spells, lowered_of_word?_eq_none spells]

theorem word?_eq_of_lowered_eq {other : Lexeme} (same : lexeme.lowered = other.lowered) :
    lexeme.word? = other.word? := by
  rw [← word?_lowered lexeme, same, word?_lowered]

@[simp] theorem isBinary_lowered (lexeme : Lexeme) : lexeme.lowered.isBinary = lexeme.isBinary := by
  rw [isBinary, word?_lowered, isBinary]

theorem endsOperand_lowered_iff : lexeme.lowered.EndsOperand ↔ lexeme.EndsOperand := by
  rw [EndsOperand, isExpression_lowered, word?_lowered, EndsOperand]

theorem demandsOperand_lowered_iff : lexeme.lowered.DemandsOperand ↔ lexeme.DemandsOperand := by
  rw [DemandsOperand, word?_lowered, DemandsOperand]

/-! ## Plain faults -/

theorem adjacencyFault?_map_lowered (lexemes : List Lexeme) :
    adjacencyFault? (lexemes.map lowered) = adjacencyFault? lexemes := by
  fun_induction adjacencyFault? lexemes with
  | case1 left right rest induction =>
    simp only [List.map_cons] at induction ⊢
    rw [adjacencyFault?, induction, adjacentFault?, adjacentFault?]
    simp only [isBinary_lowered, isExpression_lowered]
  | case2 lexemes short =>
    rcases lexemes with _ | ⟨left, _ | ⟨right, rest⟩⟩
    · rfl
    · rfl
    · exact absurd rfl (short left right rest)

theorem openParentheses?_map_lowered (depth : Nat) (lexemes : List Lexeme) :
    openParentheses? depth (lexemes.map lowered) = openParentheses? depth lexemes := by
  induction lexemes generalizing depth with
  | nil => rfl
  | cons lexeme lexemes induction =>
    rw [List.map_cons, openParentheses?, openParentheses?, word?_lowered]
    simp only [induction]

theorem balanced_map_lowered_iff :
    Balanced opens closes (lexemes.map lowered) ↔ Balanced opens closes lexemes := by
  rw [← openParentheses?_eq_zero_iff, openParentheses?_map_lowered, openParentheses?_eq_zero_iff]

theorem fault?_map_lowered (lexemes : List Lexeme) :
    fault? (lexemes.map lowered) = fault? lexemes := by
  rw [fault?, fault?, List.head?_map, List.getLast?_map, adjacencyFault?_map_lowered,
    openParentheses?_map_lowered]
  cases lexemes.head? with
  | none => rfl
  | some first =>
    cases lexemes.getLast? with
    | none => rfl
    | some last => simp only [Option.map_some, isBinary_lowered, word?_lowered]

end Lexeme

/-! ## Derivations -/

open Lexeme (lowered)

/-- What differs from a list at most in the case of its operators has the same parts around a
lexeme. -/
theorem Lexeme.exists_parts_of_map_lowered {left right other : List Lexeme} {joint : Lexeme}
    (same : other.map lowered = (left ++ joint :: right).map lowered) :
    ∃ front middle back, other = front ++ middle :: back ∧
      front.map lowered = left.map lowered ∧ middle.word? = joint.word? ∧
      back.map lowered = right.map lowered := by
  rw [List.map_append, List.map_cons] at same
  obtain ⟨front, behind, rfl, front_same, behind_same⟩ := List.map_eq_append_iff.1 same
  obtain ⟨middle, back, rfl, middle_same, back_same⟩ := List.map_eq_cons_iff.1 behind_same
  exact ⟨front, middle, back, rfl, front_same, word?_eq_of_lowered_eq middle_same, back_same⟩

/-- A list that differs from a derived one at most in the case of its operators is derived with the
same tree. -/
theorem Derivation.exists_of_map_lowered {level : GrammarLevel} (derivation : Derivation level)
    {other : List Lexeme} (same : other.map lowered = derivation.lexemes.map lowered) :
    ∃ recased : Derivation level, recased.lexemes = other ∧ recased.tree = derivation.tree := by
  induction derivation generalizing other with
  | expression text =>
    simp only [lexemes, List.map_cons, List.map_nil, Lexeme.lowered_expression] at same
    obtain ⟨atom, rfl, lowered_atom⟩ := List.map_eq_singleton_iff.1 same
    have spells : atom.word? = none := by
      rw [← Lexeme.word?_lowered, lowered_atom]
      rfl
    rw [Lexeme.lowered_of_word?_eq_none spells] at lowered_atom
    exact ⟨.expression text, by rw [lowered_atom]; rfl, rfl⟩
  | grouped opening inner closing opens closes induction =>
    obtain ⟨first, behind, rfl, first_same, behind_same⟩ := List.map_eq_cons_iff.1 same
    obtain ⟨middle, last, ending, rfl, middle_same, last_same, ending_same⟩ :=
      Lexeme.exists_parts_of_map_lowered behind_same
    obtain rfl := List.map_eq_nil_iff.1 ending_same
    obtain ⟨recased, rfl, tree_same⟩ := induction middle_same
    rw [← Lexeme.word?_eq_of_lowered_eq first_same] at opens
    rw [← last_same] at closes
    exact ⟨.grouped first recased last opens closes, rfl, tree_same⟩
  | negated negator operand negates induction =>
    obtain ⟨first, behind, rfl, first_same, behind_same⟩ := List.map_eq_cons_iff.1 same
    obtain ⟨recased, rfl, tree_same⟩ := induction behind_same
    rw [← Lexeme.word?_eq_of_lowered_eq first_same] at negates
    exact ⟨.negated first recased negates, rfl, congrArg Node.negation tree_same⟩
  | plain operand induction =>
    obtain ⟨recased, derived, tree_same⟩ := induction same
    exact ⟨.plain recased, derived, tree_same⟩
  | lastConjunct operand induction =>
    obtain ⟨recased, derived, tree_same⟩ := induction same
    exact ⟨.lastConjunct recased, derived, tree_same⟩
  | lastDisjunct operand induction =>
    obtain ⟨recased, derived, tree_same⟩ := induction same
    exact ⟨.lastDisjunct recased, derived, tree_same⟩
  | conjoined left joint right joins left_induction right_induction =>
    obtain ⟨front, middle, back, rfl, front_same, middle_same, back_same⟩ :=
      Lexeme.exists_parts_of_map_lowered same
    obtain ⟨recased_left, rfl, left_same⟩ := left_induction front_same
    obtain ⟨recased_right, rfl, right_same⟩ := right_induction back_same
    rw [← middle_same] at joins
    exact ⟨.conjoined recased_left middle recased_right joins, rfl,
      congrArg₂ Node.conjunction left_same right_same⟩
  | disjoined left joint right joins left_induction right_induction =>
    obtain ⟨front, middle, back, rfl, front_same, middle_same, back_same⟩ :=
      Lexeme.exists_parts_of_map_lowered same
    obtain ⟨recased_left, rfl, left_same⟩ := left_induction front_same
    obtain ⟨recased_right, rfl, right_same⟩ := right_induction back_same
    rw [← middle_same] at joins
    exact ⟨.disjoined recased_left middle recased_right joins, rfl,
      congrArg₂ Node.disjunction left_same right_same⟩

namespace Lexeme

variable {lexemes front : List Lexeme} {found : Lexeme} {error : SyntaxError}

theorem map_lowered_map_lowered (lexemes : List Lexeme) :
    (lexemes.map lowered).map lowered = lexemes.map lowered := by
  simp

theorem Derivable.map_lowered (derivable : Derivable lexemes) :
    Derivable (lexemes.map lowered) := by
  obtain ⟨derivation, rfl⟩ := derivable
  obtain ⟨recased, derived, -⟩ := derivation.exists_of_map_lowered (map_lowered_map_lowered _)
  exact ⟨recased, derived⟩

theorem Viable.of_map_lowered_eq {other : List Lexeme} (viable : Viable lexemes)
    (same : other.map lowered = lexemes.map lowered) : Viable other := by
  obtain ⟨derivation, further, whole⟩ := viable
  have whole_same : (other ++ further).map lowered = derivation.lexemes.map lowered := by
    rw [← whole, List.map_append, List.map_append, same]
  obtain ⟨recased, derived, -⟩ := derivation.exists_of_map_lowered whole_same
  exact ⟨recased, further, derived.symm⟩

/-- Whether a rule starts with some lexemes does not depend on the case of their operators. -/
theorem viable_map_lowered_iff : Viable (lexemes.map lowered) ↔ Viable lexemes :=
  ⟨fun viable => viable.of_map_lowered_eq (map_lowered_map_lowered lexemes).symm,
    fun viable => viable.of_map_lowered_eq (map_lowered_map_lowered lexemes)⟩

theorem FirstOffending.map_lowered (offending : FirstOffending lexemes front found) :
    FirstOffending (lexemes.map lowered) (front.map lowered) found.lowered := by
  have ended : (front ++ [found]).map lowered = front.map lowered ++ [found.lowered] := by simp
  constructor
  · rw [← ended]
    exact offending.reached.map lowered
  · exact viable_map_lowered_iff.2 offending.viable
  · rw [← ended, viable_map_lowered_iff]
    exact offending.dead

end Lexeme

/-! ## Errors -/

namespace SyntaxError

/-- The text with the operator that it spells in lower case. -/
def loweredText (text : String) : String :=
  match OperatorWord.ofText? text with
  | some word => word.text
  | none => text

/-- The error with the operator that it shows in lower case. -/
def lowered : SyntaxError → SyntaxError
  | trailingLexeme text => trailingLexeme (loweredText text)
  | operandExpected found => operandExpected (found.map loweredText)
  | error => error

theorem loweredText_of_ofText? {text : String} {word : OperatorWord}
    (spells : OperatorWord.ofText? text = some word) : loweredText text = word.text := by
  rw [loweredText, spells]

theorem loweredText_text (word : OperatorWord) : loweredText word.text = word.text :=
  loweredText_of_ofText? word.ofText?_text

theorem loweredText_lowered (lexeme : Lexeme) :
    loweredText lexeme.lowered.text = loweredText lexeme.text := by
  obtain ⟨kind, text⟩ := lexeme
  cases kind with
  | expression => rfl
  | operator =>
    cases spells : Lexeme.word? ⟨.operator, text⟩ with
    | none => rw [Lexeme.lowered_of_word?_eq_none spells]
    | some word =>
      rw [Lexeme.lowered_of_word? spells]
      exact (loweredText_text word).trans (loweredText_of_ofText? spells).symm

end SyntaxError

namespace Lexeme

variable {front : List Lexeme} {found : Lexeme} {error : SyntaxError}

theorem Blamed.map_lowered (blamed : Blamed front found error) :
    ∃ other, Blamed (front.map lowered) found.lowered other ∧ other.lowered = error.lowered := by
  cases blamed with
  | trailing derivable =>
    refine ⟨_, .trailing derivable.map_lowered, ?_⟩
    rw [SyntaxError.lowered, SyntaxError.loweredText_lowered, SyntaxError.lowered]
  | operandDue due =>
    have still_due : ∀ last ∈ (front.map lowered).getLast?, last.DemandsOperand := by
      rw [List.getLast?_map]
      intro last member
      obtain ⟨final, ended, rfl⟩ := Option.map_eq_some_iff.1 member
      exact demandsOperand_lowered_iff.2 (due final ended)
    refine ⟨_, .operandDue still_due, ?_⟩
    rw [SyntaxError.lowered, Option.map_some, SyntaxError.loweredText_lowered]
    rfl
  | groupOpen ends unbalanced =>
    obtain ⟨last, ended, ends⟩ := ends
    have still_ends : ∃ last ∈ (front.map lowered).getLast?, last.EndsOperand := by
      refine ⟨last.lowered, ?_, endsOperand_lowered_iff.2 ends⟩
      rw [List.getLast?_map, ended]
      rfl
    exact ⟨_, .groupOpen still_ends (mt balanced_map_lowered_iff.1 unbalanced), rfl⟩

end Lexeme

/-- The case of operators decides neither whether a list compiles, nor the compiled rule, nor the
reason for a refusal. -/
theorem CompiledRule.ofLexemes_map_lowered (lexemes : List Lexeme) :
    (ofLexemes (lexemes.map lowered)).mapError SyntaxError.lowered =
      (ofLexemes lexemes).mapError SyntaxError.lowered := by
  cases result : ofLexemes lexemes with
  | ok rule =>
    obtain ⟨tree, parsed, compiled⟩ := ofLexemes_eq_ok_iff.1 result
    obtain ⟨derivation, rfl, rfl⟩ := Node.parse_eq_ok_iff.1 parsed
    obtain ⟨recased, derived, tree_same⟩ :=
      derivation.exists_of_map_lowered (Lexeme.map_lowered_map_lowered _)
    rw [← compiled, ← derived, ofLexemes_lexemes, tree_same]
  | error error =>
    rcases ofLexemes_eq_error_iff_blamed.1 result with
      fault | ⟨clear, front, found, offending, blamed⟩
    · have lowered_result : ofLexemes (lexemes.map lowered) = .error error := by
        rw [ofLexemes_eq_error_iff_blamed, Lexeme.fault?_map_lowered]
        exact Or.inl fault
      rw [lowered_result]
    · obtain ⟨other, other_blamed, same⟩ := blamed.map_lowered
      have lowered_result : ofLexemes (lexemes.map lowered) = .error other := by
        rw [ofLexemes_eq_error_iff_blamed, Lexeme.fault?_map_lowered]
        exact Or.inr ⟨clear, _, _, offending.map_lowered, other_blamed⟩
      rw [lowered_result, Except.mapError, Except.mapError, same]

end AccessPolicy
