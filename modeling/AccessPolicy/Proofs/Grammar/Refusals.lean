import AccessPolicy.Proofs.Grammar.Faults
import AccessPolicy.Proofs.Grammar.Offending

/-!
# Refusals

A list without plain faults is reported at its first offending lexeme: as trailing if the lexemes
before it are a rule, as the place of a missing operand if an operand is due there, and as a fault
of the parentheses if an operand has ended between parentheses that are still open. So that last
report also meets lists whose parentheses are balanced.
-/

namespace AccessPolicy

namespace Lexeme

variable {front rest : List Lexeme} {found : Lexeme} {error : SyntaxError}

/-- What is reported of a first offending lexeme `found` behind the lexemes `front`. -/
inductive Blamed (front : List Lexeme) (found : Lexeme) : SyntaxError → Prop where
  /-- A complete rule stands before it. -/
  | trailing (derivable : Derivable front) : Blamed front found (.trailingLexeme found.text)
  /-- An operand is due in its place. -/
  | operandDue (due : ∀ last ∈ front.getLast?, last.DemandsOperand) :
      Blamed front found (.operandExpected (some found.text))
  /-- An operand has ended before it and a parenthesis is open. -/
  | groupOpen (ends : ∃ last ∈ front.getLast?, last.EndsOperand)
      (unbalanced : ¬Balanced opens closes front) : Blamed front found .unbalancedParentheses

theorem blamed_trailingLexeme_iff {text : String} :
    Blamed front found (.trailingLexeme text) ↔ Derivable front ∧ text = found.text := by
  constructor
  · intro blamed
    cases blamed with
    | trailing derivable => exact ⟨derivable, rfl⟩
  · rintro ⟨derivable, rfl⟩
    exact .trailing derivable

theorem blamed_operandExpected_iff {shown : Option String} :
    Blamed front found (.operandExpected shown) ↔
      (∀ last ∈ front.getLast?, last.DemandsOperand) ∧ shown = some found.text := by
  constructor
  · intro blamed
    cases blamed with
    | operandDue due => exact ⟨due, rfl⟩
  · rintro ⟨due, rfl⟩
    exact .operandDue due

theorem blamed_unbalancedParentheses_iff :
    Blamed front found .unbalancedParentheses ↔
      (∃ last ∈ front.getLast?, last.EndsOperand) ∧ ¬Balanced opens closes front := by
  constructor
  · intro blamed
    cases blamed with
    | groupOpen ends unbalanced => exact ⟨ends, unbalanced⟩
  · rintro ⟨ends, unbalanced⟩
    exact .groupOpen ends unbalanced

theorem Stuck.blamed (stuck : Stuck front (found :: rest) error) (viable : Viable front) :
    Blamed front found error := by
  cases stuck with
  | operandDue due => exact .operandDue due
  | @groupOpen _ opening outer inner opens_group =>
    exact .groupOpen (exists_ends_of_group outer opening inner)
      (not_balanced_of_viable viable opens_group inner.balanced_lexemes)

/-- Reading a list without plain faults does not get stuck at its end. -/
theorem Stuck.fault?_ne_none (stuck : Stuck front [] error) (viable : Viable front) :
    fault? front ≠ none := by
  rw [Ne, fault?_eq_none_iff]
  rintro ⟨orderly, balanced⟩
  cases stuck with
  | operandDue due =>
    obtain ⟨last, ended⟩ := Option.isSome_iff_exists.1 (List.getLast?_isSome.2 orderly.nonempty)
    obtain ⟨word, spells, unclosed⟩ := due last ended
    obtain ⟨single, positive⟩ := orderly.trailing last ended
    rw [isBinary_of_word? spells] at single
    cases word with
    | and | or => cases single
    | not => exact positive spells
    | closing => exact unclosed rfl
    | opening =>
      obtain ⟨outer, rfl⟩ := List.getLast?_eq_some_iff.1 ended
      exact not_balanced_of_viable viable spells ⟨by simp, rfl⟩ balanced
  | groupOpen outer inner opens_group =>
    exact not_balanced_of_viable viable opens_group inner.balanced_lexemes balanced

/-- At one place only one thing is reported. -/
theorem Blamed.unique {other : SyntaxError} (first : Blamed front found error)
    (second : Blamed front found other) : error = other := by
  have not_due : (∃ last ∈ front.getLast?, last.EndsOperand) →
      ¬∀ last ∈ front.getLast?, last.DemandsOperand := by
    rintro ⟨last, ended, ends⟩ due
    exact (due last ended).not_ends ends
  -- A rule ends an operand and is balanced, so no two of the three cases meet.
  cases first with
  | trailing derivable =>
    cases second with
    | trailing => rfl
    | operandDue due => exact absurd due (not_due derivable.exists_endsOperand)
    | groupOpen _ unbalanced => exact absurd derivable.balanced unbalanced
  | operandDue due =>
    cases second with
    | trailing derivable => exact absurd due (not_due derivable.exists_endsOperand)
    | operandDue => rfl
    | groupOpen ends _ => exact absurd due (not_due ends)
  | groupOpen ends unbalanced =>
    cases second with
    | trailing derivable => exact absurd derivable.balanced unbalanced
    | operandDue due => exact absurd due (not_due ends)
    | groupOpen => rfl

end Lexeme

namespace Node

open Lexeme (FirstOffending Blamed)

variable {lexemes : List Lexeme} {error : SyntaxError}

/-- What the grammar refuses, it refuses at the first offending lexeme. -/
theorem exists_offending_of_readWhole (clear : Lexeme.fault? lexemes = none)
    (failed : readWhole lexemes = .error error) :
    ∃ front found, FirstOffending lexemes front found ∧ Blamed front found error := by
  unfold readWhole at failed
  split at failed
  next failure result =>
    cases failed
    obtain ⟨front, rest, rfl, viable, stuck⟩ :=
      exists_stuck_of_read result (.inl (by decide))
    cases rest with
    | nil =>
      rw [List.append_nil] at clear
      exact absurd clear (stuck.fault?_ne_none viable)
    | cons found rest =>
      exact ⟨front, found, stuck.firstOffending viable, stuck.blamed viable⟩
  next tree rest shorter result =>
    obtain ⟨derivation, -, whole⟩ := exists_derivation_of_read result
    have stops : GrammarLevel.disjunction.Stops rest := stops_of_read result
    simp only at whole
    clear result
    subst whole
    cases rest with
    | nil => cases failed
    | cons extra further =>
      cases failed
      exact ⟨derivation.lexemes, extra, Lexeme.firstOffending_of_stops derivation stops,
        .trailing ⟨derivation, rfl⟩⟩

/-- A list is refused for a plain fault, or else for its first offending lexeme. -/
theorem parse_eq_error_iff :
    parse lexemes = .error error ↔ Lexeme.fault? lexemes = some error ∨
      Lexeme.fault? lexemes = none ∧
        ∃ front found, FirstOffending lexemes front found ∧ Blamed front found error := by
  cases clear : Lexeme.fault? lexemes with
  | some fault => simp [parse, clear]
  | none =>
    rw [parse_of_fault?_eq_none clear]
    constructor
    · intro failed
      exact Or.inr ⟨rfl, exists_offending_of_readWhole clear failed⟩
    · rintro (impossible | ⟨-, front, found, offending, blamed⟩)
      · cases impossible
      cases result : readWhole lexemes with
      | ok tree =>
        obtain ⟨derivation, derived, -⟩ := readWhole_eq_ok_iff.1 result
        exact absurd ⟨derivation, derived⟩ offending.not_derivable
      | error other =>
        obtain ⟨other_front, other_found, other_offending, other_blamed⟩ :=
          exists_offending_of_readWhole clear result
        obtain ⟨rfl, rfl⟩ := offending.unique other_offending
        rw [blamed.unique other_blamed]

end Node

namespace CompiledRule

open Lexeme (FirstOffending)

variable {lexemes : List Lexeme} {error : SyntaxError}

theorem ofLexemes_eq_error_iff_blamed :
    ofLexemes lexemes = .error error ↔ Lexeme.fault? lexemes = some error ∨
      Lexeme.fault? lexemes = none ∧
        ∃ front found, FirstOffending lexemes front found ∧ Lexeme.Blamed front found error := by
  rw [ofLexemes_eq_error_iff, Node.parse_eq_error_iff]

/-- An error that is no plain fault is reported of the first offending lexeme. -/
theorem ofLexemes_eq_error_iff_of_not_mem
    (shown : error ∉ .unbalancedParentheses :: Lexeme.orderFaults) :
    ofLexemes lexemes = .error error ↔ Lexeme.fault? lexemes = none ∧
      ∃ front found, FirstOffending lexemes front found ∧ Lexeme.Blamed front found error := by
  rw [ofLexemes_eq_error_iff_blamed]
  exact or_iff_right fun fault => shown (Lexeme.mem_of_fault? fault)

/-- An error that shows a lexeme shows the first offending one: as a trailing lexeme where a
complete rule stands before it, and as the lexeme found in place of an operand where an operand is
due. The second error always shows a lexeme, never the end of the list. -/
theorem ofLexemes_shows_first_offending (lexemes : List Lexeme) :
    (∀ text, ofLexemes lexemes = .error (.trailingLexeme text) ↔
      Lexeme.fault? lexemes = none ∧ ∃ front found, FirstOffending lexemes front found ∧
        Lexeme.Derivable front ∧ text = found.text) ∧
    (∀ text, ofLexemes lexemes = .error (.operandExpected (some text)) ↔
      Lexeme.fault? lexemes = none ∧ ∃ front found, FirstOffending lexemes front found ∧
        (∀ last ∈ front.getLast?, last.DemandsOperand) ∧ text = found.text) ∧
    ofLexemes lexemes ≠ .error (.operandExpected none) := by
  refine ⟨fun text => ?_, fun text => ?_, fun failed => ?_⟩
  · rw [ofLexemes_eq_error_iff_of_not_mem (by simp [Lexeme.orderFaults])]
    simp only [Lexeme.blamed_trailingLexeme_iff]
  · rw [ofLexemes_eq_error_iff_of_not_mem (by simp [Lexeme.orderFaults])]
    simp only [Lexeme.blamed_operandExpected_iff, Option.some.injEq]
  · obtain ⟨-, front, found, -, blamed⟩ := (ofLexemes_eq_error_iff_of_not_mem (by decide)).1 failed
    cases (Lexeme.blamed_operandExpected_iff.1 blamed).2

/-- A list is refused for its parentheses if its order is in order and they are not balanced, or if
an operand has ended inside a group and the next lexeme neither goes on with the rule nor closes the
group. -/
theorem ofLexemes_eq_unbalanced_iff (lexemes : List Lexeme) :
    ofLexemes lexemes = .error .unbalancedParentheses ↔ Lexeme.Orderly lexemes ∧
      (¬Balanced Lexeme.opens Lexeme.closes lexemes ∨
        ∃ front found, FirstOffending lexemes front found ∧
          (∃ last ∈ front.getLast?, last.EndsOperand) ∧
          ¬Balanced Lexeme.opens Lexeme.closes front) := by
  rw [ofLexemes_eq_error_iff_blamed, Lexeme.fault?_eq_unbalanced_iff, Lexeme.fault?_eq_none_iff]
  simp only [Lexeme.blamed_unbalancedParentheses_iff]
  constructor
  · rintro (⟨orderly, unbalanced⟩ | ⟨⟨orderly, -⟩, broken⟩)
    · exact ⟨orderly, Or.inl unbalanced⟩
    · exact ⟨orderly, Or.inr broken⟩
  · rintro ⟨orderly, broken⟩
    by_cases balanced : Balanced Lexeme.opens Lexeme.closes lexemes
    · exact Or.inr ⟨⟨orderly, balanced⟩, broken.resolve_left (absurd balanced)⟩
    · exact Or.inl ⟨orderly, balanced⟩

/-- A group of two operands without a word between them, as in `(a (b))`. -/
def brokenGroup : List Lexeme :=
  [.operator "(", .expression "a", .operator "(", .expression "b", .operator ")", .operator ")"]

/-- The parentheses of a broken group are balanced, and it is refused for its parentheses. -/
theorem ofLexemes_brokenGroup :
    Balanced Lexeme.opens Lexeme.closes brokenGroup ∧
      ofLexemes brokenGroup = .error .unbalancedParentheses := by
  have clear : Lexeme.fault? brokenGroup = none := by decide +kernel
  have opens : (Lexeme.operator "(").word? = some .opening := by decide
  have closes : (Lexeme.operator ")").word? = some .closing := by decide
  have viable : Lexeme.Viable [.operator "(", .expression "a"] :=
    ⟨.ofOperand (.grouped _ (.ofOperand (.expression "a")) _ opens closes),
      [.operator ")"], rfl⟩
  -- The second group neither goes on with the first operand nor closes its group.
  have stuck : Lexeme.Stuck [.operator "(", .expression "a"]
      [.operator "(", .expression "b", .operator ")", .operator ")"] .unbalancedParentheses := by
    refine .groupOpen [] (.ofOperand (.expression "a")) opens fun found member follows => ?_
    cases member
    exact follows.not_starts (Or.inr (Or.inl opens))
  exact ⟨(Lexeme.fault?_eq_none_iff.1 clear).2, ofLexemes_eq_error_iff_blamed.2
    (Or.inr ⟨clear, _, _, stuck.firstOffending viable, stuck.blamed viable⟩)⟩

end CompiledRule

end AccessPolicy
