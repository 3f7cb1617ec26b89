import AccessPolicy.Rule.Parse
import Mathlib.Data.List.Chain

/-!
# Derivations of rules

The grammar of rules as a type of derivations, indexed by the level that a derivation starts from.
A derivation yields its lexemes and its syntax tree. The lexemes determine the derivation, and they
have none of the plain faults that are looked for before the grammar is consulted.
-/

namespace AccessPolicy

namespace Lexeme

/-- The lexemes that an operand can start with. -/
def StartsOperand (lexeme : Lexeme) : Prop :=
  lexeme.isExpression ∨ lexeme.word? = some .opening ∨ lexeme.word? = some .not

/-- The lexemes that an operand can end with. -/
def EndsOperand (lexeme : Lexeme) : Prop :=
  lexeme.isExpression ∨ lexeme.word? = some .closing

/-- The lexemes behind which an operand is due. -/
def DemandsOperand (lexeme : Lexeme) : Prop :=
  ∃ word, lexeme.word? = some word ∧ word ≠ .closing

/-- The lexemes that a rule can go on with behind an operand. -/
def FollowsOperand (lexeme : Lexeme) : Prop :=
  ∃ word, lexeme.word? = some word ∧ (word.isBinary ∨ word = .closing)

/-- Two lexemes that stand side by side in some rule. -/
def Adjoins (left right : Lexeme) : Prop :=
  left.EndsOperand ∧ right.FollowsOperand ∨ left.DemandsOperand ∧ right.StartsOperand

@[simp] theorem isExpression_expression (text : String) : (expression text).isExpression = true :=
  rfl

theorem word?_of_isExpression {lexeme : Lexeme} (atomic : lexeme.isExpression = true) :
    lexeme.word? = none := by
  obtain ⟨kind, text⟩ := lexeme
  cases kind with
  | expression => rfl
  | operator => cases atomic

theorem isExpression_of_word? {lexeme : Lexeme} {word : OperatorWord}
    (spells : lexeme.word? = some word) : lexeme.isExpression = false := by
  rw [Bool.eq_false_iff]
  intro atomic
  rw [word?_of_isExpression atomic] at spells
  cases spells

theorem isBinary_of_word? {lexeme : Lexeme} {word : OperatorWord}
    (spells : lexeme.word? = some word) : lexeme.isBinary = word.isBinary := by
  rw [isBinary, spells, Option.any_some]

theorem eq_expression {lexeme : Lexeme} (atomic : lexeme.isExpression = true) :
    lexeme = expression lexeme.text := by
  obtain ⟨kind, text⟩ := lexeme
  cases kind with
  | expression => rfl
  | operator => cases atomic

theorem StartsOperand.isBinary_eq_false {lexeme : Lexeme} (starts : lexeme.StartsOperand) :
    lexeme.isBinary = false := by
  rcases starts with atomic | opens | negates
  · rw [isBinary, word?_of_isExpression atomic, Option.any_none]
  · exact isBinary_of_word? opens
  · exact isBinary_of_word? negates

theorem EndsOperand.isBinary_eq_false {lexeme : Lexeme} (ends : lexeme.EndsOperand) :
    lexeme.isBinary = false := by
  rcases ends with atomic | closes
  · rw [isBinary, word?_of_isExpression atomic, Option.any_none]
  · exact isBinary_of_word? closes

theorem EndsOperand.word?_ne_not {lexeme : Lexeme} (ends : lexeme.EndsOperand) :
    lexeme.word? ≠ some .not := by
  rcases ends with atomic | closes
  · rw [word?_of_isExpression atomic]
    nofun
  · rw [closes]
    nofun

theorem DemandsOperand.not_ends {lexeme : Lexeme} (demands : lexeme.DemandsOperand) :
    ¬lexeme.EndsOperand := by
  obtain ⟨word, spells, open_word⟩ := demands
  rintro (atomic | closes)
  · rw [isExpression_of_word? spells] at atomic
    cases atomic
  · rw [spells] at closes
    exact open_word (Option.some.inj closes)

theorem FollowsOperand.not_starts {lexeme : Lexeme} (follows : lexeme.FollowsOperand) :
    ¬lexeme.StartsOperand := by
  obtain ⟨word, spells, goes_on⟩ := follows
  rintro (atomic | opens | negates)
  · rw [isExpression_of_word? spells] at atomic
    cases atomic
  · cases spells.symm.trans opens
    simp [OperatorWord.isBinary] at goes_on
  · cases spells.symm.trans negates
    simp [OperatorWord.isBinary] at goes_on

theorem adjacentFault?_eq_none_iff {left right : Lexeme} :
    adjacentFault? left right = none ↔
      ¬(left.isBinary ∧ right.isBinary) ∧ ¬(left.isExpression ∧ right.isExpression) := by
  rw [adjacentFault?]
  split
  next operators => simp [operators]
  next operators =>
    split
    next expressions => simp [expressions]
    next expressions => simp [operators, expressions]

/-- No two neighbours of a rule are a plain fault: neither two binary operators nor two
expressions. -/
theorem Adjoins.adjacentFault?_eq_none {left right : Lexeme} (adjoins : left.Adjoins right) :
    adjacentFault? left right = none := by
  rw [adjacentFault?_eq_none_iff]
  constructor
  · rintro ⟨left_joins, right_joins⟩
    rcases adjoins with ⟨ends, -⟩ | ⟨-, starts⟩
    · rw [ends.isBinary_eq_false] at left_joins
      cases left_joins
    · rw [starts.isBinary_eq_false] at right_joins
      cases right_joins
  · rintro ⟨left_atomic, right_atomic⟩
    rcases adjoins with ⟨-, follows⟩ | ⟨demands, -⟩
    · exact follows.not_starts (Or.inl right_atomic)
    · exact demands.not_ends (Or.inl left_atomic)

/-- The adjacency check accepts a list of lexemes if it accepts every adjacent pair. -/
theorem adjacencyFault?_eq_none_iff {lexemes : List Lexeme} :
    adjacencyFault? lexemes = none ↔
      lexemes.IsChain fun left right => adjacentFault? left right = none := by
  induction lexemes with
  | nil => simp [adjacencyFault?]
  | cons left rest induction =>
    cases rest with
    | nil => simp [adjacencyFault?]
    | cons right rest =>
      rw [adjacencyFault?, Option.or_eq_none_iff, List.isChain_cons_cons, induction]

end Lexeme

namespace GrammarLevel

/-- Whether an operator word joins a further operand to a rule of the level. -/
def joins : GrammarLevel → OperatorWord → Bool
  | .disjunction, .or | .disjunction, .and | .conjunction, .and => true
  | _, _ => false

/-- A rule of the level that is followed by these lexemes ends before them. -/
def Stops (level : GrammarLevel) (lexemes : List Lexeme) : Prop :=
  ∀ word ∈ lexemes.head?.bind Lexeme.word?, level.joins word = false

theorem stops_nil (level : GrammarLevel) : level.Stops [] := nofun

theorem stops_operand (lexemes : List Lexeme) : operand.Stops lexemes := fun _ _ => rfl

theorem stops_negation (lexemes : List Lexeme) : negation.Stops lexemes := fun _ _ => rfl

theorem Stops.conjunction {lexemes : List Lexeme} (stops : disjunction.Stops lexemes) :
    conjunction.Stops lexemes := by
  intro word starts
  have ended := stops word starts
  cases word with
  | and | or => cases ended
  | not | opening | closing => rfl

theorem stops_cons {level : GrammarLevel} {lexeme : Lexeme} {word : OperatorWord}
    {rest : List Lexeme} (spells : lexeme.word? = some word) :
    level.Stops (lexeme :: rest) ↔ level.joins word = false := by
  simp [Stops, spells]

end GrammarLevel

/-- A derivation in the grammar of rules that starts from one level. -/
inductive Derivation : GrammarLevel → Type where
  /-- An atomic expression. -/
  | expression (text : String) : Derivation .operand
  /-- A rule between parentheses. -/
  | grouped (opening : Lexeme) (inner : Derivation .disjunction) (closing : Lexeme)
      (opens : opening.word? = some .opening) (closes : closing.word? = some .closing) :
      Derivation .operand
  /-- An operand without `not`. -/
  | plain (operand : Derivation .operand) : Derivation .negation
  /-- An operand behind `not`. -/
  | negated (negator : Lexeme) (operand : Derivation .negation)
      (negates : negator.word? = some .not) : Derivation .negation
  /-- The last operand that is joined by `and`. -/
  | lastConjunct (operand : Derivation .negation) : Derivation .conjunction
  /-- An operand joined to further ones by `and`. -/
  | conjoined (left : Derivation .negation) (joint : Lexeme) (right : Derivation .conjunction)
      (joins : joint.word? = some .and) : Derivation .conjunction
  /-- The last operand that is joined by `or`. -/
  | lastDisjunct (operand : Derivation .conjunction) : Derivation .disjunction
  /-- An operand joined to further ones by `or`. -/
  | disjoined (left : Derivation .conjunction) (joint : Lexeme) (right : Derivation .disjunction)
      (joins : joint.word? = some .or) : Derivation .disjunction

namespace Derivation

/-- The lexemes that are derived. -/
def lexemes {level : GrammarLevel} : Derivation level → List Lexeme
  | expression text => [Lexeme.expression text]
  | grouped opening inner closing _ _ => opening :: (inner.lexemes ++ [closing])
  | plain operand => operand.lexemes
  | negated negator operand _ => negator :: operand.lexemes
  | lastConjunct operand => operand.lexemes
  | conjoined left joint right _ => left.lexemes ++ joint :: right.lexemes
  | lastDisjunct operand => operand.lexemes
  | disjoined left joint right _ => left.lexemes ++ joint :: right.lexemes

/-- The syntax tree of a derivation. Parentheses leave no trace in it. -/
def tree {level : GrammarLevel} : Derivation level → Node
  | expression text => .expression text
  | grouped _ inner _ _ _ => inner.tree
  | plain operand => operand.tree
  | negated _ operand _ => .negation operand.tree
  | lastConjunct operand => operand.tree
  | conjoined left _ right _ => .conjunction left.tree right.tree
  | lastDisjunct operand => operand.tree
  | disjoined left _ right _ => .disjunction left.tree right.tree

/-- An operand as a whole rule. -/
def ofOperand (operand : Derivation .operand) : Derivation .disjunction :=
  .lastDisjunct (.lastConjunct (.plain operand))

variable {level : GrammarLevel}

theorem lexemes_ne_nil (derivation : Derivation level) : derivation.lexemes ≠ [] := by
  induction derivation with
  | expression | grouped | negated => exact List.cons_ne_nil _ _
  | plain _ induction | lastConjunct _ induction | lastDisjunct _ induction => exact induction
  | conjoined left _ _ _ induction _ | disjoined left _ _ _ induction _ =>
    exact List.append_ne_nil_of_left_ne_nil induction _

theorem startsOperand_of_mem_head? (derivation : Derivation level) :
    ∀ first ∈ derivation.lexemes.head?, first.StartsOperand := by
  induction derivation with
  | expression text =>
    rintro first ⟨⟩
    exact Or.inl rfl
  | grouped opening inner closing opens closes induction =>
    rintro first ⟨⟩
    exact Or.inr (Or.inl opens)
  | negated negator operand negates induction =>
    rintro first ⟨⟩
    exact Or.inr (Or.inr negates)
  | plain _ induction | lastConjunct _ induction | lastDisjunct _ induction => exact induction
  | conjoined left _ _ _ induction _ | disjoined left _ _ _ induction _ =>
    rw [lexemes, List.head?_append_of_ne_nil _ left.lexemes_ne_nil]
    exact induction

theorem endsOperand_of_mem_getLast? (derivation : Derivation level) :
    ∀ last ∈ derivation.lexemes.getLast?, last.EndsOperand := by
  induction derivation with
  | expression text =>
    rintro last ⟨⟩
    exact Or.inl rfl
  | grouped opening inner closing opens closes induction =>
    intro last member
    rw [lexemes, ← List.cons_append, List.getLast?_concat] at member
    cases member
    exact Or.inr closes
  | negated negator operand negates induction =>
    rw [lexemes, ← List.singleton_append, List.getLast?_append_of_ne_nil _ operand.lexemes_ne_nil]
    exact induction
  | plain _ induction | lastConjunct _ induction | lastDisjunct _ induction => exact induction
  | conjoined left joint right _ _ induction | disjoined left joint right _ _ induction =>
    rw [lexemes, ← List.singleton_append, ← List.append_assoc,
      List.getLast?_append_of_ne_nil _ right.lexemes_ne_nil]
    exact induction

theorem exists_endsOperand (derivation : Derivation level) :
    ∃ last ∈ derivation.lexemes.getLast?, last.EndsOperand := by
  obtain ⟨last, ended⟩ := Option.isSome_iff_exists.1
    (List.getLast?_isSome.2 derivation.lexemes_ne_nil)
  exact ⟨last, ended, derivation.endsOperand_of_mem_getLast? last ended⟩

/-- An operand does not start with `not`. -/
theorem word?_ne_not_of_operand (derivation : Derivation .operand) {first : Lexeme}
    {rest tail : List Lexeme} (split : derivation.lexemes ++ rest = first :: tail) :
    first.word? ≠ some .not := by
  cases derivation with
  | expression text =>
    cases split
    nofun
  | grouped opening inner closing opens closes =>
    cases split
    rw [opens]
    nofun

/-- Two derivations that yield the starts of one list of lexemes, each up to where its level stops,
are the same. -/
theorem eq_of_lexemes_append_eq (left : Derivation level) {right : Derivation level}
    {left_rest right_rest : List Lexeme}
    (same : left.lexemes ++ left_rest = right.lexemes ++ right_rest)
    (left_stops : level.Stops left_rest) (right_stops : level.Stops right_rest) :
    left = right ∧ left_rest = right_rest := by
  induction left generalizing left_rest right_rest with
  | expression text =>
    cases right with
    | expression other =>
      cases same
      exact ⟨rfl, rfl⟩
    | grouped opening inner closing opens closes =>
      cases same
      cases opens
  | grouped opening inner closing opens closes induction =>
    cases right with
    | expression text =>
      cases same
      cases opens
    | grouped other_opening other other_closing other_opens other_closes =>
      simp only [lexemes, List.cons_append, List.append_assoc, List.cons.injEq] at same
      obtain ⟨rfl, same⟩ := same
      obtain ⟨rfl, rest_same⟩ := induction same
        ((GrammarLevel.stops_cons closes).2 rfl) ((GrammarLevel.stops_cons other_closes).2 rfl)
      cases rest_same
      exact ⟨rfl, rfl⟩
  | plain operand induction =>
    cases right with
    | plain other =>
      obtain ⟨rfl, rest_same⟩ := induction same
        (GrammarLevel.stops_operand _) (GrammarLevel.stops_operand _)
      exact ⟨rfl, rest_same⟩
    | negated negator other negates =>
      exact absurd negates (operand.word?_ne_not_of_operand same)
  | negated negator operand negates induction =>
    cases right with
    | plain other =>
      exact absurd negates (other.word?_ne_not_of_operand same.symm)
    | negated other_negator other other_negates =>
      simp only [lexemes, List.cons_append, List.cons.injEq] at same
      obtain ⟨rfl, same⟩ := same
      obtain ⟨rfl, rest_same⟩ := induction same
        (GrammarLevel.stops_negation _) (GrammarLevel.stops_negation _)
      exact ⟨rfl, rest_same⟩
  | lastConjunct operand induction =>
    cases right with
    | lastConjunct other =>
      obtain ⟨rfl, rest_same⟩ := induction same
        (GrammarLevel.stops_negation _) (GrammarLevel.stops_negation _)
      exact ⟨rfl, rest_same⟩
    | conjoined other joint further joins =>
      rw [lexemes, lexemes, List.append_assoc] at same
      obtain ⟨rfl, rfl⟩ := induction same
        (GrammarLevel.stops_negation _) (GrammarLevel.stops_negation _)
      cases (GrammarLevel.stops_cons joins).1 left_stops
  | conjoined operand joint further joins left_unique right_unique =>
    cases right with
    | lastConjunct other =>
      rw [lexemes, lexemes, List.append_assoc] at same
      obtain ⟨rfl, rfl⟩ := left_unique same
        (GrammarLevel.stops_negation _) (GrammarLevel.stops_negation _)
      cases (GrammarLevel.stops_cons joins).1 right_stops
    | conjoined other other_joint other_further other_joins =>
      rw [lexemes, lexemes, List.append_assoc, List.append_assoc] at same
      obtain ⟨rfl, joint_same⟩ := left_unique same
        (GrammarLevel.stops_negation _) (GrammarLevel.stops_negation _)
      obtain ⟨rfl, further_same⟩ := List.cons.inj joint_same
      obtain ⟨rfl, rest_same⟩ := right_unique further_same left_stops right_stops
      exact ⟨rfl, rest_same⟩
  | lastDisjunct operand induction =>
    cases right with
    | lastDisjunct other =>
      obtain ⟨rfl, rest_same⟩ := induction same left_stops.conjunction right_stops.conjunction
      exact ⟨rfl, rest_same⟩
    | disjoined other joint further joins =>
      rw [lexemes, lexemes, List.append_assoc] at same
      obtain ⟨rfl, rfl⟩ := induction same left_stops.conjunction
        ((GrammarLevel.stops_cons joins).2 rfl)
      cases (GrammarLevel.stops_cons joins).1 left_stops
  | disjoined operand joint further joins left_unique right_unique =>
    cases right with
    | lastDisjunct other =>
      rw [lexemes, lexemes, List.append_assoc] at same
      obtain ⟨rfl, rfl⟩ := left_unique same ((GrammarLevel.stops_cons joins).2 rfl)
        right_stops.conjunction
      cases (GrammarLevel.stops_cons joins).1 right_stops
    | disjoined other other_joint other_further other_joins =>
      rw [lexemes, lexemes, List.append_assoc, List.append_assoc] at same
      obtain ⟨rfl, joint_same⟩ := left_unique same ((GrammarLevel.stops_cons joins).2 rfl)
        ((GrammarLevel.stops_cons other_joins).2 rfl)
      obtain ⟨rfl, further_same⟩ := List.cons.inj joint_same
      obtain ⟨rfl, rest_same⟩ := right_unique further_same left_stops right_stops
      exact ⟨rfl, rest_same⟩

/-- Two derived lists on both sides of an operator word that joins them. -/
private theorem isChain_joined {left right : List Lexeme} {joint : Lexeme} {word : OperatorWord}
    (joins : joint.word? = some word) (binary : word.isBinary = true)
    (left_chain : left.IsChain Lexeme.Adjoins) (right_chain : right.IsChain Lexeme.Adjoins)
    (ends : ∀ last ∈ left.getLast?, last.EndsOperand)
    (starts : ∀ first ∈ right.head?, first.StartsOperand) :
    (left ++ joint :: right).IsChain Lexeme.Adjoins := by
  have demands : joint.DemandsOperand := ⟨word, joins, by rintro rfl; cases binary⟩
  rw [List.isChain_append, List.isChain_cons]
  refine ⟨left_chain, ⟨fun first member => Or.inr ⟨demands, starts first member⟩, right_chain⟩,
    fun last member first joint_eq => ?_⟩
  cases joint_eq
  exact Or.inl ⟨ends last member, word, joins, Or.inl binary⟩

/-- Neighbours in a derived list adjoin each other. -/
theorem isChain_adjoins_lexemes (derivation : Derivation level) :
    derivation.lexemes.IsChain Lexeme.Adjoins := by
  induction derivation with
  | expression text => exact List.isChain_singleton _
  | grouped opening inner closing opens closes induction =>
    have demands : opening.DemandsOperand := ⟨.opening, opens, nofun⟩
    have follows : closing.FollowsOperand := ⟨.closing, closes, Or.inr rfl⟩
    rw [lexemes, List.isChain_cons, List.isChain_append]
    refine ⟨fun first member => ?_, induction, List.isChain_singleton _,
      fun last member first closing_eq => ?_⟩
    · rw [List.head?_append_of_ne_nil _ inner.lexemes_ne_nil] at member
      exact Or.inr ⟨demands, inner.startsOperand_of_mem_head? first member⟩
    · cases closing_eq
      exact Or.inl ⟨inner.endsOperand_of_mem_getLast? last member, follows⟩
  | negated negator operand negates induction =>
    have demands : negator.DemandsOperand := ⟨.not, negates, nofun⟩
    rw [lexemes, List.isChain_cons]
    exact ⟨fun first member => Or.inr ⟨demands, operand.startsOperand_of_mem_head? first member⟩,
      induction⟩
  | plain _ induction | lastConjunct _ induction | lastDisjunct _ induction => exact induction
  | conjoined left _ right joins left_chain right_chain
  | disjoined left _ right joins left_chain right_chain =>
    exact isChain_joined joins rfl left_chain right_chain left.endsOperand_of_mem_getLast?
      right.startsOperand_of_mem_head?

/-- A derived list passes the adjacency check. -/
theorem adjacencyFault?_lexemes (derivation : Derivation level) :
    Lexeme.adjacencyFault? derivation.lexemes = none :=
  Lexeme.adjacencyFault?_eq_none_iff.2
    (derivation.isChain_adjoins_lexemes.imp fun _ _ => Lexeme.Adjoins.adjacentFault?_eq_none)

/-- A derived list leaves the number of open parentheses as it was. -/
theorem openParentheses?_lexemes_append (derivation : Derivation level) (depth : Nat)
    (rest : List Lexeme) :
    Lexeme.openParentheses? depth (derivation.lexemes ++ rest) =
      Lexeme.openParentheses? depth rest := by
  induction derivation generalizing depth rest with
  | expression text => rfl
  | grouped opening inner closing opens closes induction =>
    simp only [lexemes, List.cons_append, List.append_assoc]
    rw [Lexeme.openParentheses?, opens]
    simp only
    rw [induction, Lexeme.openParentheses?, closes]
    simp
  | negated negator operand negates induction =>
    rw [lexemes, List.cons_append, Lexeme.openParentheses?, negates]
    exact induction depth rest
  | plain _ induction | lastConjunct _ induction | lastDisjunct _ induction =>
    exact induction depth rest
  | conjoined left joint right joins left_balanced right_balanced
  | disjoined left joint right joins left_balanced right_balanced =>
    rw [lexemes, List.append_assoc, left_balanced, List.cons_append, Lexeme.openParentheses?, joins]
    exact right_balanced depth rest

/-- None of the plain faults is found in a derived list. -/
theorem fault?_lexemes (derivation : Derivation level) :
    Lexeme.fault? derivation.lexemes = none := by
  obtain ⟨first, head⟩ := Option.isSome_iff_exists.1
    (List.isSome_head?.2 derivation.lexemes_ne_nil)
  obtain ⟨last, tail⟩ := Option.isSome_iff_exists.1
    (List.getLast?_isSome.2 derivation.lexemes_ne_nil)
  have starts := derivation.startsOperand_of_mem_head? first head
  have ends := derivation.endsOperand_of_mem_getLast? last tail
  have balanced : Lexeme.openParentheses? 0 derivation.lexemes = some 0 := by
    simpa [Lexeme.openParentheses?] using derivation.openParentheses?_lexemes_append 0 []
  simp [Lexeme.fault?, head, tail, starts.isBinary_eq_false, ends.isBinary_eq_false,
    ends.word?_ne_not, derivation.adjacencyFault?_lexemes, balanced]

end Derivation

end AccessPolicy
