import AccessPolicy.Proofs.Grammar.Brackets

/-!
# Plain faults

The faults that are looked for before the grammar is consulted fall in two groups. First comes the
order of the lexemes: which ones stand at the ends and which ones side by side. Only an orderly list
has its parentheses counted.
-/

namespace AccessPolicy

namespace Lexeme

variable {lexemes : List Lexeme}

/-- The order of lexemes that is checked before their parentheses. -/
structure Orderly (lexemes : List Lexeme) : Prop where
  /-- There are lexemes. -/
  nonempty : lexemes ≠ []
  /-- The first one is not `and` or `or`. -/
  leading : ∀ first ∈ lexemes.head?, first.isBinary = false
  /-- The last one is not `and`, `or` or `not`. -/
  trailing : ∀ last ∈ lexemes.getLast?, last.isBinary = false ∧ last.word? ≠ some .not
  /-- No two of `and` and `or`, and no two expressions, stand side by side. -/
  adjacent : lexemes.IsChain fun left right =>
    ¬(left.isBinary ∧ right.isBinary) ∧ ¬(left.isExpression ∧ right.isExpression)

theorem adjacencyFault?_eq_some {fault : SyntaxError}
    (found : adjacencyFault? lexemes = some fault) :
    fault = .consecutiveOperators ∨ fault = .consecutiveExpressions := by
  fun_induction adjacencyFault? lexemes with
  | case1 left right rest induction =>
    rcases Option.or_eq_some_iff.1 found with here | ⟨-, later⟩
    · unfold adjacentFault? at here
      split at here
      next => exact Or.inl (Option.some.inj here).symm
      next =>
        split at here
        next => exact Or.inr (Option.some.inj here).symm
        next => cases here
    · exact induction later
  | case2 => cases found

/-- The faults that are looked for before the parentheses are counted. -/
def orderFaults : List SyntaxError :=
  [.empty, .leadingOperator, .trailingOperator, .consecutiveOperators, .consecutiveExpressions]

theorem adjacencyFault?_eq_none_iff_isChain : adjacencyFault? lexemes = none ↔
    lexemes.IsChain fun left right =>
      ¬(left.isBinary ∧ right.isBinary) ∧ ¬(left.isExpression ∧ right.isExpression) := by
  simp only [adjacencyFault?_eq_none_iff, adjacentFault?_eq_none_iff]

/-- An orderly list has no fault but that of its parentheses. -/
theorem Orderly.fault? (orderly : Orderly lexemes) :
    Lexeme.fault? lexemes =
      if openParentheses? 0 lexemes = some 0 then none else some .unbalancedParentheses := by
  obtain ⟨first, head⟩ := Option.isSome_iff_exists.1 (List.isSome_head?.2 orderly.nonempty)
  obtain ⟨final, tail⟩ := Option.isSome_iff_exists.1 (List.getLast?_isSome.2 orderly.nonempty)
  obtain ⟨single, open_end⟩ := orderly.trailing final tail
  simp [Lexeme.fault?, head, tail, orderly.leading first head, single, open_end,
    adjacencyFault?_eq_none_iff_isChain.2 orderly.adjacent]

/-- A list that is not orderly is refused before its parentheses are counted. -/
theorem orderly_or_exists_fault (lexemes : List Lexeme) :
    Orderly lexemes ∨ ∃ fault ∈ orderFaults, Lexeme.fault? lexemes = some fault := by
  by_cases nonempty : lexemes = []
  · exact Or.inr ⟨.empty, by decide, by rw [nonempty]; rfl⟩
  obtain ⟨first, head⟩ := Option.isSome_iff_exists.1 (List.isSome_head?.2 nonempty)
  obtain ⟨final, tail⟩ := Option.isSome_iff_exists.1 (List.getLast?_isSome.2 nonempty)
  by_cases leading : first.isBinary = true
  · exact Or.inr ⟨.leadingOperator, by decide, by simp [Lexeme.fault?, head, tail, leading]⟩
  by_cases trailing : final.isBinary = true ∨ final.word? = some .not
  · exact Or.inr ⟨.trailingOperator, by decide,
      by simp [Lexeme.fault?, head, tail, leading, trailing]⟩
  cases adjacent : adjacencyFault? lexemes with
  | some fault =>
    refine Or.inr ⟨fault, ?_, by simp [Lexeme.fault?, head, tail, leading, trailing, adjacent]⟩
    rcases adjacencyFault?_eq_some adjacent with rfl | rfl <;> decide
  | none =>
    refine Or.inl ⟨nonempty, ?_, ?_, adjacencyFault?_eq_none_iff_isChain.1 adjacent⟩
    · rw [head]
      rintro _ ⟨⟩
      exact eq_false_of_ne_true leading
    · rw [tail]
      rintro _ ⟨⟩
      exact (not_or.1 trailing).imp eq_false_of_ne_true id

theorem Orderly.fault?_ne {fault : SyntaxError} (orderly : Orderly lexemes)
    (member : fault ∈ orderFaults) : Lexeme.fault? lexemes ≠ some fault := by
  rw [orderly.fault?]
  split
  next => nofun
  next =>
    intro same
    rw [← Option.some.inj same] at member
    exact absurd member (by decide)

theorem fault?_eq_none_iff :
    fault? lexemes = none ↔ Orderly lexemes ∧ Balanced opens closes lexemes := by
  rcases orderly_or_exists_fault lexemes with orderly | ⟨fault, member, found⟩
  · simp [orderly.fault?, orderly, openParentheses?_eq_zero_iff]
  · rw [found]
    refine iff_of_false nofun fun ⟨orderly, _⟩ => orderly.fault?_ne member found

theorem fault?_eq_unbalanced_iff :
    fault? lexemes = some .unbalancedParentheses ↔
      Orderly lexemes ∧ ¬Balanced opens closes lexemes := by
  rcases orderly_or_exists_fault lexemes with orderly | ⟨fault, member, found⟩
  · simp [orderly.fault?, orderly, openParentheses?_eq_zero_iff]
  · rw [found]
    refine iff_of_false (fun same => ?_) fun ⟨orderly, _⟩ => orderly.fault?_ne member found
    rw [Option.some.inj same] at member
    exact absurd member (by decide)

/-- A plain fault shows no lexeme. -/
theorem mem_of_fault? {fault : SyntaxError} (found : fault? lexemes = some fault) :
    fault ∈ .unbalancedParentheses :: orderFaults := by
  rcases orderly_or_exists_fault lexemes with orderly | ⟨other, member, other_found⟩
  · rw [orderly.fault?] at found
    split at found
    next => cases found
    next =>
      cases found
      exact List.mem_cons_self
  · rw [found] at other_found
    cases other_found
    exact List.mem_cons_of_mem _ member

end Lexeme

end AccessPolicy
