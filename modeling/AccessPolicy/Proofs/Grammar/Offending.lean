import AccessPolicy.Proofs.Grammar.Brackets
import AccessPolicy.Proofs.Grammar.Reading

/-!
# The first offending lexeme

A list of lexemes that is no rule has at most one lexeme that no rule goes on with although some
rule starts with everything before it. Reading that fails has read the start of a rule and got stuck
there, in one of two ways: an operand is due and does not come, or an operand has ended between
parentheses and the rule neither goes on nor closes them. Either way it has not read past the
offending lexeme.
-/

namespace AccessPolicy

open Lexeme (Rest startsWith)

/-- The neighbours inside a derived list adjoin each other. -/
theorem Derivation.adjoins_of_prefix {level : GrammarLevel} {derivation : Derivation level}
    {front : List Lexeme} {last found : Lexeme} (starts : front ++ [found] <+: derivation.lexemes)
    (ends : last ∈ front.getLast?) : last.Adjoins found := by
  have chain := derivation.isChain_adjoins_lexemes.prefix starts
  exact (List.isChain_append.1 chain).2.2 last ends found rfl

namespace Lexeme

variable {lexemes front other rest : List Lexeme} {found last : Lexeme}

/-- The lexemes are a rule. -/
def Derivable (lexemes : List Lexeme) : Prop :=
  ∃ derivation : Derivation .disjunction, derivation.lexemes = lexemes

/-- Some rule starts with the lexemes. -/
def Viable (lexemes : List Lexeme) : Prop :=
  ∃ derivation : Derivation .disjunction, lexemes <+: derivation.lexemes

/-- No rule starts like the list up to and with the lexeme `found`, but some rule starts with what
stands before it. -/
structure FirstOffending (lexemes front : List Lexeme) (found : Lexeme) : Prop where
  /-- The lexeme stands in the list, behind `front`. -/
  reached : front ++ [found] <+: lexemes
  /-- Some rule starts with what stands before it. -/
  viable : Viable front
  /-- No rule goes on with it. -/
  dead : ¬Viable (front ++ [found])

theorem Derivable.viable (derivable : Derivable lexemes) : Viable lexemes := by
  obtain ⟨derivation, rfl⟩ := derivable
  exact ⟨derivation, List.prefix_refl _⟩

theorem Derivable.exists_endsOperand (derivable : Derivable lexemes) :
    ∃ last ∈ lexemes.getLast?, last.EndsOperand := by
  obtain ⟨derivation, rfl⟩ := derivable
  exact derivation.exists_endsOperand

theorem Derivable.balanced (derivable : Derivable lexemes) : Balanced opens closes lexemes := by
  obtain ⟨derivation, rfl⟩ := derivable
  exact derivation.balanced_lexemes

theorem Viable.of_prefix (viable : Viable lexemes) (starts : front <+: lexemes) : Viable front := by
  obtain ⟨derivation, whole⟩ := viable
  exact ⟨derivation, starts.trans whole⟩

theorem Viable.adjoins (viable : Viable (front ++ [found])) (ends : last ∈ front.getLast?) :
    last.Adjoins found := by
  obtain ⟨derivation, starts⟩ := viable
  exact derivation.adjoins_of_prefix starts ends

theorem Viable.startsOperand (viable : Viable [found]) : found.StartsOperand := by
  obtain ⟨derivation, further, whole⟩ := viable
  exact derivation.startsOperand_of_mem_head? found (by rw [← whole]; rfl)

/-- A list has at most one first offending lexeme. -/
theorem FirstOffending.unique {other_found : Lexeme} (first : FirstOffending lexemes front found)
    (second : FirstOffending lexemes other other_found) : front = other ∧ found = other_found := by
  have not_before {left right : List Lexeme} {one another : Lexeme}
      (earlier : FirstOffending lexemes left one) (later : FirstOffending lexemes right another)
      (starts : left ++ [one] <+: right ++ [another]) : left = right ∧ one = another := by
    rcases List.prefix_concat_iff.1 starts with same | inside
    · exact (List.append_inj' same rfl).imp id List.singleton_inj.1
    · exact absurd (later.viable.of_prefix inside) earlier.dead
  rcases List.prefix_or_prefix_of_prefix first.reached second.reached with starts | starts
  · exact not_before first second starts
  · exact (not_before second first starts).imp Eq.symm Eq.symm

theorem FirstOffending.not_derivable (offending : FirstOffending lexemes front found) :
    ¬Derivable lexemes := fun derivable =>
  offending.dead (derivable.viable.of_prefix offending.reached)

/-! ## Where reading gets stuck -/

/-- How reading gets stuck: what it has read, what is left, and what it reports. -/
inductive Stuck : List Lexeme → List Lexeme → SyntaxError → Prop where
  /-- An operand is due, and what is left does not start with one. -/
  | operandDue {front rest : List Lexeme} (due : ∀ last ∈ front.getLast?, last.DemandsOperand)
      (absent : ∀ found ∈ rest.head?, ¬found.StartsOperand) :
      Stuck front rest (.operandExpected (rest.head?.map (·.text)))
  /-- The rule behind an opening parenthesis has ended, and what is left does not go on with it. -/
  | groupOpen {rest : List Lexeme} {opening : Lexeme} (outer : List Lexeme)
      (inner : Derivation .disjunction) (opens : opening.word? = some .opening)
      (absent : ∀ found ∈ rest.head?, ¬found.FollowsOperand) :
      Stuck (outer ++ opening :: inner.lexemes) rest .unbalancedParentheses

/-- What gets stuck behind a place where an operand is due does so behind everything that leads to
such a place. -/
theorem Stuck.behind {error : SyntaxError} (stuck : Stuck front rest error) (before : List Lexeme)
    (demands : last.DemandsOperand) : Stuck (before ++ last :: front) rest error := by
  cases stuck with
  | operandDue due absent =>
    refine .operandDue (fun final member => ?_) absent
    cases front with
    | nil =>
      rw [List.getLast?_concat] at member
      cases member
      exact demands
    | cons first further =>
      rw [List.getLast?_append_of_ne_nil _ (List.cons_ne_nil _ _),
        List.getLast?_cons_cons] at member
      exact due final member
  | groupOpen outer inner opens absent =>
    have whole := Stuck.groupOpen (before ++ last :: outer) inner opens absent
    rwa [List.append_assoc] at whole

end Lexeme

namespace GrammarLevel

/-- Nothing goes on with a rule that has stopped, unless it closes a parenthesis. -/
theorem Stops.not_follows {rest : List Lexeme} (stops : disjunction.Stops rest)
    (unclosed : startsWith .closing rest = false) :
    ∀ found ∈ rest.head?, ¬found.FollowsOperand := by
  rintro found member ⟨word, spells, binary | rfl⟩
  · have joins := stops word (by rw [member]; exact spells)
    cases word with
    | and | or => cases joins
    | not | opening | closing => cases binary
  · have closed : startsWith .closing rest = true := by
      rw [startsWith, member, Option.bind_some, spells, beq_self_eq_true]
    rw [unclosed] at closed
    cases closed

end GrammarLevel

namespace Node

open Lexeme (Stuck)

variable {level : GrammarLevel} {lexemes : List Lexeme}

/-- What is left after reading a level does not go on with it. -/
theorem stops_of_read {tree : Node} {rest : Rest lexemes}
    (result : read level lexemes = .ok (tree, rest)) : level.Stops rest.1 := by
  fun_induction read level lexemes generalizing tree with
  | case1 | case2 | case5 | case6 | case9 | case12 | case14 | case16 | case17 => cases result
  | case3 lexemes left rest shorter left_result joined _ right tail next right_result _
      right_stops =>
    cases result
    exact right_stops right_result
  | case4 lexemes left rest shorter left_result ended left_stops =>
    cases result
    have stops := left_stops left_result
    intro word starts
    cases word with
    | and => exact absurd (stops _ starts) (by decide)
    | or => exact absurd (beq_iff_eq.2 starts) ended
    | not | opening | closing => rfl
  | case7 lexemes left rest shorter left_result joined _ right tail next right_result _
      right_stops =>
    cases result
    exact right_stops right_result
  | case8 lexemes left rest shorter left_result ended _ =>
    cases result
    intro word starts
    cases word with
    | and => exact absurd (beq_iff_eq.2 starts) ended
    | or | not | opening | closing => rfl
  | case10 | case11 => exact GrammarLevel.stops_negation _
  | case13 | case15 => exact GrammarLevel.stops_operand _

/-- Reading that fails has read the start of a rule and got stuck there. On the level of operands
it is not tried before `not`. -/
theorem exists_stuck_of_read {error : SyntaxError} (result : read level lexemes = .error error)
    (ready : level ≠ .operand ∨ startsWith .not lexemes = false) :
    ∃ front rest, front ++ rest = lexemes ∧
      (∃ derivation : Derivation level, front <+: derivation.lexemes) ∧ Stuck front rest error := by
  fun_induction read level lexemes with
  | case3 | case4 | case7 | case8 | case10 | case13 | case15 => cases result
  | case1 lexemes failure left_result left_stuck =>
    cases result
    obtain ⟨front, rest, whole, ⟨derivation, starts⟩, stuck⟩ :=
      left_stuck left_result (.inl (by decide))
    exact ⟨front, rest, whole, ⟨.lastDisjunct derivation, starts⟩, stuck⟩
  | case2 lexemes left rest shorter left_result joined _ failure right_result _ right_stuck =>
    cases result
    obtain ⟨leftDerivation, rfl, left_lexemes⟩ := exists_derivation_of_read left_result
    obtain ⟨joint, further, rfl, joins⟩ := Lexeme.exists_cons_of_startsWith joined
    obtain ⟨front, left_over, whole, ⟨derivation, starts⟩, stuck⟩ :=
      right_stuck right_result (.inl (by decide))
    refine ⟨leftDerivation.lexemes ++ joint :: front, left_over, ?_,
      ⟨.disjoined leftDerivation joint derivation joins, ?_⟩,
      stuck.behind _ ⟨.or, joins, by decide⟩⟩
    · rw [List.append_assoc, List.cons_append, whole]
      exact left_lexemes
    · exact (List.prefix_append_right_inj _).2 ((List.prefix_cons_inj joint).2 starts)
  | case5 lexemes failure left_result left_stuck =>
    cases result
    obtain ⟨front, rest, whole, ⟨derivation, starts⟩, stuck⟩ :=
      left_stuck left_result (.inl (by decide))
    exact ⟨front, rest, whole, ⟨.lastConjunct derivation, starts⟩, stuck⟩
  | case6 lexemes left rest shorter left_result joined _ failure right_result _ right_stuck =>
    cases result
    obtain ⟨leftDerivation, rfl, left_lexemes⟩ := exists_derivation_of_read left_result
    obtain ⟨joint, further, rfl, joins⟩ := Lexeme.exists_cons_of_startsWith joined
    obtain ⟨front, left_over, whole, ⟨derivation, starts⟩, stuck⟩ :=
      right_stuck right_result (.inl (by decide))
    refine ⟨leftDerivation.lexemes ++ joint :: front, left_over, ?_,
      ⟨.conjoined leftDerivation joint derivation joins, ?_⟩,
      stuck.behind _ ⟨.and, joins, by decide⟩⟩
    · rw [List.append_assoc, List.cons_append, whole]
      exact left_lexemes
    · exact (List.prefix_append_right_inj _).2 ((List.prefix_cons_inj joint).2 starts)
  | case9 lexemes negated _ failure operand_result operand_stuck =>
    cases result
    obtain ⟨negator, further, rfl, negates⟩ := Lexeme.exists_cons_of_startsWith negated
    obtain ⟨front, rest, rfl, ⟨derivation, starts⟩, stuck⟩ :=
      operand_stuck operand_result (.inl (by decide))
    exact ⟨negator :: front, rest, rfl,
      ⟨.negated negator derivation negates, (List.prefix_cons_inj negator).2 starts⟩,
      stuck.behind [] ⟨.not, negates, by decide⟩⟩
  | case11 lexemes plain operand_stuck =>
    obtain ⟨front, rest, whole, ⟨derivation, starts⟩, stuck⟩ :=
      operand_stuck result (.inr (eq_false_of_ne_true plain))
    exact ⟨front, rest, whole, ⟨.plain derivation, starts⟩, stuck⟩
  | case12 =>
    cases result
    exact ⟨[], [], rfl, ⟨.expression "", List.nil_prefix⟩, .operandDue (by simp) (by simp)⟩
  | case14 first rest _ opens failure inner_result inner_stuck =>
    cases result
    obtain ⟨front, left_over, rfl, ⟨derivation, starts⟩, stuck⟩ :=
      inner_stuck inner_result (.inl (by decide))
    refine ⟨first :: front, left_over, rfl,
      ⟨.grouped first derivation (.operator ")") opens rfl, ?_⟩,
      stuck.behind [] ⟨.opening, opens, by decide⟩⟩
    exact (List.prefix_cons_inj first).2 (starts.trans (List.prefix_append _ _))
  | case16 first rest _ opens inner tail shorter inner_result unclosed _ =>
    cases result
    obtain ⟨derivation, -, whole⟩ := exists_derivation_of_read inner_result
    have absent := (stops_of_read inner_result).not_follows (eq_false_of_ne_true unclosed)
    refine ⟨first :: derivation.lexemes, tail, congrArg (first :: ·) whole,
      ⟨.grouped first derivation (.operator ")") opens rfl, ?_⟩,
      .groupOpen [] derivation opens absent⟩
    exact (List.prefix_cons_inj first).2 (List.prefix_append _ _)
  | case17 first rest plain unopened =>
    cases result
    have absent : ¬first.StartsOperand := by
      rintro (atomic | opens | negates)
      · exact plain atomic
      · exact unopened opens
      · have unready := ready.resolve_left (absurd rfl)
        rw [Lexeme.startsWith_cons negates] at unready
        cases unready
    have nothing_starts : ∀ found ∈ (first :: rest).head?, ¬found.StartsOperand := by
      rintro found ⟨⟩
      exact absent
    exact ⟨[], first :: rest, rfl, ⟨.expression "", List.nil_prefix⟩,
      .operandDue (by simp) nothing_starts⟩

end Node

namespace Lexeme

variable {front rest : List Lexeme} {found : Lexeme} {error : SyntaxError}

/-- What gets stuck inside a group has a parenthesis open. -/
theorem not_balanced_of_viable {outer inner : List Lexeme} {opening : Lexeme}
    (viable : Viable (outer ++ opening :: inner)) (opens_group : opening.word? = some .opening)
    (balanced : Balanced opens closes inner) :
    ¬Balanced opens closes (outer ++ opening :: inner) := by
  obtain ⟨derivation, starts⟩ := viable
  have outer_covered := derivation.balanced_lexemes.covered outer
    ((List.prefix_append outer _).trans starts)
  have opened : opening.opens = true := beq_iff_eq.2 opens_group
  have unclosed : opening.closes = false := by simp [closes, opens_group]
  intro whole
  have total := whole.total
  have inner_total := balanced.total
  simp only [List.countP_append, List.countP_cons, opened, unclosed] at total
  simp at total
  omega

/-- A group that holds a rule so far has come to the end of an operand. -/
theorem exists_ends_of_group (outer : List Lexeme) (opening : Lexeme)
    (inner : Derivation .disjunction) :
    ∃ last ∈ (outer ++ opening :: inner.lexemes).getLast?, last.EndsOperand := by
  obtain ⟨last, ended, ends⟩ := inner.exists_endsOperand
  refine ⟨last, ?_, ends⟩
  rwa [List.append_cons, List.getLast?_append_of_ne_nil _ inner.lexemes_ne_nil]

/-- No rule goes on with the lexeme at which reading gets stuck. -/
theorem Stuck.dead (stuck : Stuck front (found :: rest) error) : ¬Viable (front ++ [found]) := by
  intro viable
  cases stuck with
  | operandDue due absent =>
    cases ended : front.getLast? with
    | none =>
      rw [List.getLast?_eq_none_iff.1 ended] at viable
      exact absent found rfl viable.startsOperand
    | some last =>
      rcases viable.adjoins ended with ⟨ends, -⟩ | ⟨-, starts⟩
      · exact (due last ended).not_ends ends
      · exact absent found rfl starts
  | @groupOpen _ opening outer inner opens_group absent =>
    obtain ⟨last, ended, ends⟩ := exists_ends_of_group outer opening inner
    rcases viable.adjoins ended with ⟨-, follows⟩ | ⟨demands, -⟩
    · exact absent found rfl follows
    · exact demands.not_ends ends

theorem Stuck.firstOffending (stuck : Stuck front (found :: rest) error) (viable : Viable front) :
    FirstOffending (front ++ found :: rest) front found :=
  ⟨(List.prefix_append_right_inj front).2 (List.prefix_append [found] rest), viable, stuck.dead⟩

/-- Behind a whole rule that has stopped, the next lexeme is the first offending one. -/
theorem firstOffending_of_stops (derivation : Derivation .disjunction)
    (stops : GrammarLevel.disjunction.Stops (found :: rest)) :
    FirstOffending (derivation.lexemes ++ found :: rest) derivation.lexemes found := by
  have derivable : Derivable derivation.lexemes := ⟨derivation, rfl⟩
  have reached : derivation.lexemes ++ [found] <+: derivation.lexemes ++ found :: rest :=
    (List.prefix_append_right_inj _).2 (List.prefix_append [found] rest)
  refine ⟨reached, derivable.viable, ?_⟩
  rintro ⟨longer, tail, same⟩
  have found_stops : GrammarLevel.disjunction.Stops (found :: tail) := stops
  have lexemes_same : derivation.lexemes ++ found :: tail = longer.lexemes ++ [] := by
    rw [List.append_nil, ← same, List.append_assoc, List.singleton_append]
  obtain ⟨-, impossible⟩ := derivation.eq_of_lexemes_append_eq lexemes_same found_stops
    (GrammarLevel.stops_nil _)
  cases impossible

end Lexeme

end AccessPolicy
