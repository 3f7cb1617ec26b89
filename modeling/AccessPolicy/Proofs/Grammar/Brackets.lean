import AccessPolicy.Proofs.Grammar.Derivation

/-!
# Brackets

What it means that the brackets of a list are balanced, by counting: no front of the list closes
more of them than it opens, and the whole list closes as many as it opens. The number of open
parentheses that is kept for a list of lexemes says just this.
-/

namespace AccessPolicy

section Brackets

variable {α : Type} {opens closes : α → Bool} {depth middle final other : Nat} {left right : List α}
  {item : α}

/-- Behind `depth` open brackets a list closes none that is not open, and leaves `final` open. -/
structure Leaves (opens closes : α → Bool) (depth : Nat) (list : List α) (final : Nat) : Prop where
  /-- No front closes more than is open. -/
  covered : ∀ front, front <+: list → front.countP closes ≤ depth + front.countP opens
  /-- What is open in the end. -/
  total : depth + list.countP opens = final + list.countP closes

/-- The brackets of a list match. -/
structure Balanced (opens closes : α → Bool) (list : List α) : Prop where
  /-- No front closes more than it opens. -/
  covered : ∀ front, front <+: list → front.countP closes ≤ front.countP opens
  /-- As many are opened as are closed. -/
  total : list.countP opens = list.countP closes

theorem balanced_iff_leaves : Balanced opens closes left ↔ Leaves opens closes 0 left 0 := by
  constructor
  · intro balanced
    exact ⟨by simpa using balanced.covered, by simpa using balanced.total⟩
  · intro leaves
    exact ⟨by simpa using leaves.covered, by simpa using leaves.total⟩

theorem Leaves.unique (first : Leaves opens closes depth left final)
    (second : Leaves opens closes depth left other) : final = other := by
  have first_total := first.total
  have second_total := second.total
  omega

theorem leaves_nil_iff : Leaves opens closes depth [] final ↔ depth = final := by
  constructor
  · intro leaves
    exact leaves.total
  · rintro rfl
    refine ⟨fun front start => ?_, rfl⟩
    rw [List.prefix_nil.1 start]
    exact Nat.zero_le _

theorem leaves_cons_iff : Leaves opens closes depth (item :: left) final ↔
    (if closes item then 1 else 0) ≤ depth + (if opens item then 1 else 0) ∧
      Leaves opens closes (depth + (if opens item then 1 else 0) - if closes item then 1 else 0)
        left final := by
  constructor
  · rintro ⟨covered, total⟩
    have first := covered [item] (List.prefix_append [item] left)
    simp only [List.countP_cons, List.countP_nil] at first total
    refine ⟨by omega, fun front start => ?_, by omega⟩
    have bound := covered (item :: front) ((List.prefix_cons_inj item).2 start)
    simp only [List.countP_cons] at bound
    omega
  · rintro ⟨first, covered, total⟩
    refine ⟨fun front start => ?_, ?_⟩
    · rcases List.prefix_cons_iff.1 start with rfl | ⟨further, rfl, later⟩
      · exact Nat.zero_le _
      · have bound := covered further later
        simp only [List.countP_cons]
        omega
    · simp only [List.countP_cons]
      omega

theorem leaves_append_iff : Leaves opens closes depth (left ++ right) final ↔
    ∃ middle, Leaves opens closes depth left middle ∧ Leaves opens closes middle right final := by
  induction left generalizing depth with
  | nil => simp [leaves_nil_iff]
  | cons item left induction => simp [leaves_cons_iff, induction, and_assoc]

/-- What is open before a list stays open behind it. -/
theorem Leaves.raise (leaves : Leaves opens closes depth left final) (outer : Nat) :
    Leaves opens closes (outer + depth) left (outer + final) := by
  obtain ⟨covered, total⟩ := leaves
  refine ⟨fun front starts => ?_, by omega⟩
  have bound := covered front starts
  omega

/-- A list without brackets leaves open what was open before it. -/
theorem leaves_of_bare (bare : ∀ item ∈ left, opens item = false ∧ closes item = false) :
    Leaves opens closes depth left depth := by
  induction left with
  | nil => exact leaves_nil_iff.2 rfl
  | cons item left induction =>
    obtain ⟨here, later⟩ := List.forall_mem_cons.1 bare
    simp [leaves_cons_iff, here, induction later]

end Brackets

namespace Lexeme

/-- Whether a lexeme is an opening parenthesis. -/
def opens (lexeme : Lexeme) : Bool := lexeme.word? == some .opening

/-- Whether a lexeme is a closing parenthesis. -/
def closes (lexeme : Lexeme) : Bool := lexeme.word? == some .closing

/-- The count of open parentheses gives what a list leaves open. -/
theorem openParentheses?_eq_some_iff {lexemes : List Lexeme} {depth final : Nat} :
    openParentheses? depth lexemes = some final ↔ Leaves opens closes depth lexemes final := by
  induction lexemes generalizing depth with
  | nil => simp [openParentheses?, leaves_nil_iff]
  | cons lexeme rest induction =>
    rw [openParentheses?, leaves_cons_iff]
    split
    next spells => simp [opens, closes, spells, induction]
    next spells =>
      split
      next => simp [opens, closes, spells]; omega
      next => simp [opens, closes, spells, induction]; omega
    next notOpening notClosing =>
      have opens_nothing : lexeme.opens = false := beq_eq_false_iff_ne.2 notOpening
      have closes_nothing : lexeme.closes = false := beq_eq_false_iff_ne.2 notClosing
      simp [opens_nothing, closes_nothing, induction]

theorem openParentheses?_eq_zero_iff {lexemes : List Lexeme} :
    openParentheses? 0 lexemes = some 0 ↔ Balanced opens closes lexemes := by
  rw [openParentheses?_eq_some_iff, balanced_iff_leaves]

end Lexeme

/-- The parentheses of a derived list are balanced. -/
theorem Derivation.balanced_lexemes {level : GrammarLevel} (derivation : Derivation level) :
    Balanced Lexeme.opens Lexeme.closes derivation.lexemes := by
  rw [← Lexeme.openParentheses?_eq_zero_iff]
  simpa [Lexeme.openParentheses?] using derivation.openParentheses?_lexemes_append 0 []

end AccessPolicy
