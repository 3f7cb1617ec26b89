import AccessPolicy.Proofs.Grammar.Reading
import AccessPolicy.Proofs.Grammar.Scanning

/-!
# Printing and compiling again

A tree is printed with every operator in parentheses. If each leaf is one expression that leaves
no quote and no parenthesis open, the printed text compiles to the tree again. The one text that
cannot be printed behind `not` starts with `null:`, since both together are a presence test.
-/

namespace AccessPolicy

/-- The trees of leaves that are one expression each, with no `not` before a leaf that it would
turn into a presence test. -/
inductive Node.Printable : Node → Prop where
  /-- The text of a leaf is one expression, and nothing is open behind it. -/
  | expression {text : String} (atomic : Lexeme.ofText text = [.expression text])
      (closed : Nesting.outside.after text.toList = .outside) : Printable (.expression text)
  /-- Two operands joined by `and`. -/
  | conjunction {left right : Node} (first : Printable left) (second : Printable right) :
      Printable (.conjunction left right)
  /-- Two operands joined by `or`. -/
  | disjunction {left right : Node} (first : Printable left) (second : Printable right) :
      Printable (.disjunction left right)
  /-- An operand behind `not`. -/
  | negation {operand : Node} (printable : Printable operand)
      (clear : ∀ path, operand ≠ .expression ("null:" ++ path)) : Printable (.negation operand)

namespace Lexeme

variable {left right text : List Char} {first second lexemes : List Lexeme}

/-- A text has these lexemes before every separator. -/
def Prints (text : List Char) (lexemes : List Lexeme) : Prop :=
  ∀ rest, Separated rest → scan (text ++ rest) = lexemes ++ scan rest

theorem scan_opening (rest : List Char) : scan ('(' :: rest) = operator "(" :: scan rest :=
  scan_parenthesis (by decide) (Or.inl rfl)

theorem scan_closing (rest : List Char) : scan (')' :: rest) = operator ")" :: scan rest :=
  scan_parenthesis (by decide) (Or.inr rfl)

theorem scan_space (rest : List Char) : scan (' ' :: rest) = scan rest := scan_blank (by decide)

/-- Two operands with a word between them, in parentheses. -/
theorem Prints.joined (word : List Char) {joint : Lexeme}
    (joins : ∀ rest, scan (word ++ ' ' :: rest) = joint :: scan rest)
    (prints_left : Prints left first) (prints_right : Prints right second) :
    Prints ('(' :: (left ++ ' ' :: (word ++ ' ' :: (right ++ [')']))))
      (operator "(" :: ((first ++ joint :: second) ++ [operator ")"])) := by
  intro rest _
  simp only [List.cons_append, List.append_assoc, List.nil_append]
  rw [scan_opening, prints_left _ (separated_space _), scan_space, joins,
    prints_right _ (separated_closing _), scan_closing]

/-- An operand behind `not`, in parentheses. -/
theorem Prints.negated (clear : ∀ rest,
      ¬['n', 'u', 'l', 'l', ':'] <+: (text ++ ')' :: rest).dropWhile Text.isBlank)
    (prints : Prints text lexemes) :
    Prints ('(' :: 'n' :: 'o' :: 't' :: ' ' :: (text ++ [')']))
      (operator "(" :: operator "not" :: (lexemes ++ [operator ")"])) := by
  intro rest _
  simp only [List.cons_append, List.append_assoc, List.nil_append]
  rw [scan_opening, scan_not (clear rest), prints _ (separated_closing _), scan_closing]

theorem scan_of_ofText {text : String} (atomic : ofText text = [expression text]) :
    scan text.toList = [expression (String.ofList text.toList)] := by
  rw [String.ofList_toList]
  exact atomic

end Lexeme

namespace Node

open Lexeme (Prints)

variable {tree : Node}

theorem infixText_binary {joint : Operator} {left right : Node} (joins : joint ≠ .not) :
    (binary joint left right).infixText.toList =
      '(' :: (left.infixText.toList ++
        ' ' :: (joint.word.toList ++ ' ' :: (right.infixText.toList ++ [')']))) := by
  cases joint with
  | not => exact absurd rfl joins
  | and | or => simp [binary, infixText]

theorem infixText_negation (operand : Node) :
    (negation operand).infixText.toList =
      '(' :: 'n' :: 'o' :: 't' :: ' ' :: (operand.infixText.toList ++ [')']) := by
  simp [negation, infixText]

/-- A printable tree is not taken for the path of a presence test unless it is a leaf with the
text of one. -/
theorem Printable.not_prefix (printable : tree.Printable)
    (clear : ∀ path, tree ≠ .expression ("null:" ++ path)) (rest : List Char) :
    ¬['n', 'u', 'l', 'l', ':'] <+:
      (tree.infixText.toList ++ ')' :: rest).dropWhile Text.isBlank := by
  have opened (inner : List Char) : ¬['n', 'u', 'l', 'l', ':'] <+:
      ('(' :: inner ++ ')' :: rest).dropWhile Text.isBlank := by
    rw [List.cons_append, List.dropWhile_cons_of_neg (by decide), List.cons_prefix_cons]
    rintro ⟨same, -⟩
    exact absurd same (by decide)
  cases printable with
  | @conjunction left right =>
    rw [Node.conjunction, infixText_binary (by decide)]
    exact opened _
  | @disjunction left right =>
    rw [Node.disjunction, infixText_binary (by decide)]
    exact opened _
  | @negation operand =>
    rw [infixText_negation]
    exact opened _
  | @expression text atomic closed =>
    have scanned := Lexeme.scan_of_ofText atomic
    obtain ⟨first, further, listed, visible⟩ : ∃ first further,
        text.toList = first :: further ∧ Text.isBlank first = false := by
      rcases Lexeme.cases_of_scan_eq_expression scanned with
        ⟨path, listed, -⟩ | ⟨first, further, listed, visible, -⟩
      · exact ⟨'n', _, listed, by decide⟩
      · exact ⟨first, further, listed, visible⟩
    have kept : (text.toList ++ ')' :: rest).dropWhile Text.isBlank = text.toList ++ ')' :: rest := by
      rw [listed, List.cons_append, List.dropWhile_cons_of_neg (ne_true_of_eq_false visible)]
    intro starts
    have starts_so : ['n', 'u', 'l', 'l', ':'] <+: text.toList :=
      Lexeme.prefix_of_prefix_append (kept ▸ starts) (by rintro next ⟨⟩; decide)
    obtain ⟨path, spelt⟩ := starts_so
    refine clear (String.ofList path) (congrArg Node.expression ?_)
    rw [← String.toList_inj, ← spelt]
    simp

/-- A printable tree is printed as the lexemes of an operand that derives it. -/
theorem Printable.exists_derivation (printable : tree.Printable) :
    ∃ derivation : Derivation .operand,
      derivation.tree = tree ∧ Prints tree.infixText.toList derivation.lexemes := by
  -- An operand stands before a space or a closing parenthesis, and `Prints` holds before both.
  induction printable with
  | @expression text atomic closed =>
    have scanned := Lexeme.scan_of_ofText atomic
    refine ⟨.expression text, rfl, fun rest separated => ?_⟩
    have leaf := Lexeme.scan_append_of_atomic scanned closed separated
    rwa [String.ofList_toList] at leaf
  | @conjunction left right _ _ first_derived second_derived =>
    obtain ⟨leftDerivation, rfl, prints_left⟩ := first_derived
    obtain ⟨rightDerivation, rfl, prints_right⟩ := second_derived
    refine ⟨.grouped (.operator "(") (.lastDisjunct (.conjoined (.plain leftDerivation)
      (.operator "and") (.lastConjunct (.plain rightDerivation)) rfl)) (.operator ")") rfl rfl,
      rfl, ?_⟩
    rw [Node.conjunction, infixText_binary (by decide)]
    exact Prints.joined Operator.and.word.toList Lexeme.scan_and prints_left prints_right
  | @disjunction left right _ _ first_derived second_derived =>
    obtain ⟨leftDerivation, rfl, prints_left⟩ := first_derived
    obtain ⟨rightDerivation, rfl, prints_right⟩ := second_derived
    refine ⟨.grouped (.operator "(") (.disjoined (.lastConjunct (.plain leftDerivation))
      (.operator "or") (.lastDisjunct (.lastConjunct (.plain rightDerivation))) rfl)
      (.operator ")") rfl rfl, rfl, ?_⟩
    rw [Node.disjunction, infixText_binary (by decide)]
    exact Prints.joined Operator.or.word.toList Lexeme.scan_or prints_left prints_right
  | @negation operand printable clear derived =>
    obtain ⟨derivation, rfl, prints⟩ := derived
    refine ⟨.grouped (.operator "(") (.lastDisjunct (.lastConjunct (.negated (.operator "not")
      (.plain derivation) rfl))) (.operator ")") rfl rfl, rfl, ?_⟩
    rw [infixText_negation]
    exact Prints.negated (printable.not_prefix clear) prints

end Node

/-- A printable tree compiles from its printed text, to the compiled rule of just this tree. -/
theorem CompiledRule.ofText_infixText {tree : Node} (printable : tree.Printable) :
    ofText tree.infixText = .ok (ofTree tree) := by
  obtain ⟨derivation, rfl, prints⟩ := printable.exists_derivation
  have scanned : Lexeme.ofText derivation.tree.infixText = derivation.lexemes := by
    have whole := prints [] nofun
    rwa [List.append_nil, Lexeme.scan_nil, List.append_nil] at whole
  have parsed : Node.parse derivation.lexemes = .ok derivation.tree :=
    Node.parse_eq_ok_iff.2 ⟨.lastDisjunct (.lastConjunct (.plain derivation)), rfl, rfl⟩
  rw [ofText, scanned]
  exact ofLexemes_eq_ok_iff.2 ⟨derivation.tree, parsed, rfl⟩

/-- A tree with a quoted leaf, a placeholder, and a presence test behind `not`. -/
def guardedTree : Node :=
  .conjunction (.expression "'a (b':%(target.id)s")
    (.disjunction (.negation (.expression "not null:%(target.id)s")) (.expression "rule:nothing"))

theorem CompiledRule.ofText_infixText_guarded :
    guardedTree.Printable ∧
      guardedTree.infixText =
        "('a (b':%(target.id)s and ((not not null:%(target.id)s) or rule:nothing))" ∧
      ofText guardedTree.infixText = .ok (ofTree guardedTree) := by
  have printable : guardedTree.Printable := by
    refine .conjunction (.expression (by decide +kernel) (by decide))
      (.disjunction (.negation (.expression (by decide +kernel) (by decide)) ?_)
        (.expression (by decide +kernel) (by decide)))
    intro path same
    have texts : "not null:%(target.id)s" = "null:" ++ path := (Node.leaf.inj same).1
    have listed := congrArg String.toList texts
    simp at listed
  exact ⟨printable, by decide +kernel, ofText_infixText printable⟩

/-- A leaf that starts with `null:` is swallowed by the `not` before it. -/
example : Lexeme.ofText (Node.negation (.expression "null:x")).infixText =
    [.operator "(", .expression "not null:x", .operator ")"] := by
  decide +kernel

end AccessPolicy
