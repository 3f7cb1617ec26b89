import AccessPolicy.Proofs.Grammar.Brackets
import AccessPolicy.Proofs.Grammar.Reading
import AccessPolicy.Proofs.Grammar.Respacing

/-!
# Parentheses of rule text

The parentheses of a text are those outside its quoted spans. Parsing counts only the parentheses
that are lexemes; the others belong to expressions, and an expression closes what it opens unless
the text ends first. So a rule text that compiles closes no parenthesis that is not open, and is
balanced exactly if its last expression was not cut off inside a parenthesis of its own.
-/

namespace AccessPolicy

namespace Text

/-- The characters outside quoted spans, in a text before which a quote may be open. A quote outside
spans opens a span that runs to the next quote of its kind, or to the end. -/
def unquoted : Option Char → List Char → List Char
  | _, [] => []
  | some quote, character :: rest => unquoted (if character = quote then none else some quote) rest
  | none, character :: rest =>
    if Nesting.isQuote character then unquoted (some character) rest
    else character :: unquoted none rest

/-- The parentheses outside quoted spans match. -/
def Balanced (text : String) : Prop :=
  AccessPolicy.Balanced (· == '(') (· == ')') (unquoted none text.toList)

end Text

open Text (unquoted)

/-- A text without quotes and parentheses. -/
def Bare (text : List Char) : Prop :=
  ∀ character ∈ text, Nesting.isQuote character = false ∧ ¬(character = '(' ∨ character = ')')

namespace Nesting

variable {nesting : Nesting} {text front back : List Char}

theorem quote_next (depth : Nat) (character : Char) :
    (next ⟨none, depth⟩ character).quote = if isQuote character then some character else none := by
  by_cases quote : isQuote character = true
  · simp [next_of_step (.startsQuote quote), quote]
  · simp only [next, step?, quote]
    repeat' split
    all_goals simp_all

/-- The characters outside quoted spans, part by part. -/
theorem unquoted_append (nesting : Nesting) (front back : List Char) :
    unquoted nesting.quote (front ++ back) =
      unquoted nesting.quote front ++ unquoted (nesting.after front).quote back := by
  induction front generalizing nesting with
  | nil => simp [unquoted, after]
  | cons character front induction =>
    obtain ⟨quote, depth⟩ := nesting
    rw [after_cons, List.cons_append]
    cases quote with
    | some quote =>
      have goes_on := induction ⟨if character = quote then none else some quote, depth⟩
      simpa [unquoted, next, step?] using goes_on
    | none =>
      have goes_on := induction (next ⟨none, depth⟩ character)
      rw [quote_next] at goes_on
      by_cases opens : isQuote character = true
      · simpa [unquoted, opens] using goes_on
      · simpa [unquoted, opens] using goes_on

/-- An expression leaves open what it has nested in the end, and closes nothing else. -/
theorem leaves_of_span (whole : nesting.span text = (text, [])) :
    Leaves (· == '(') (· == ')') nesting.depth (unquoted nesting.quote text)
      (nesting.after text).depth := by
  induction text generalizing nesting with
  | nil => exact leaves_nil_iff.2 rfl
  | cons character text induction =>
    obtain ⟨following, goes, later⟩ := span_cons_eq_iff.1 whole
    have step := step_of_step? goes
    have rest_leaves := induction later
    rw [after_cons, next_of_step step]
    cases step with
    | inside differs => simpa [unquoted, differs] using rest_leaves
    | endsQuote => simpa [unquoted] using rest_leaves
    | startsQuote opens => simpa [unquoted, opens] using rest_leaves
    | opens => simpa [unquoted, isQuote, leaves_cons_iff] using rest_leaves
    | closes => simpa [unquoted, isQuote, leaves_cons_iff] using rest_leaves
    | plain unquoted_character inner =>
      obtain ⟨opening, closing⟩ := not_or.1 inner
      simpa [unquoted, unquoted_character, leaves_cons_iff, opening, closing] using rest_leaves

end Nesting

/-! ## Texts without quotes and parentheses -/

namespace Bare

variable {text rest : List Char}

theorem unquoted_append (bare : Bare text) (rest : List Char) :
    unquoted none (text ++ rest) = text ++ unquoted none rest := by
  induction text with
  | nil => rfl
  | cons character text induction =>
    obtain ⟨⟨quote, -⟩, later⟩ := List.forall_mem_cons.1 bare
    simp [unquoted, quote, induction later]

theorem unquoted_eq (bare : Bare text) : unquoted none text = text := by
  simpa [unquoted] using bare.unquoted_append []

theorem leaves (bare : Bare text) (depth : Nat) :
    Leaves (· == '(') (· == ')') depth text depth := by
  refine leaves_of_bare fun character member => ?_
  obtain ⟨-, inner⟩ := bare character member
  simpa using not_or.1 inner

theorem after_append (bare : Bare text) (rest : List Char) :
    Nesting.outside.after (text ++ rest) = Nesting.outside.after rest := by
  induction text with
  | nil => rfl
  | cons character text induction =>
    obtain ⟨⟨quote, inner⟩, later⟩ := List.forall_mem_cons.1 bare
    rw [List.cons_append, Nesting.after_cons, Nesting.outside,
      Nesting.next_of_step (.plain quote inner)]
    exact induction later

theorem of_blank (blank : ∀ character ∈ text, Text.isBlank character = true) : Bare text := by
  intro character member
  have cuts : Cuts character := Or.inl (blank character member)
  refine ⟨Nesting.isQuote_of_cuts cuts, ?_⟩
  rintro (rfl | rfl)
  · cases blank _ member
  · cases blank _ member

/-- The letters of a reserved word. -/
theorem of_reserved (reserved : Lexeme.Reserved text rest) : Bare text := by
  intro character member
  have letters : ∀ word ∈ Lexeme.reservedWords, ∀ letter ∈ word,
      letter ∈ ['a', 'n', 'd', 'o', 'r', 't'] := by simp [Lexeme.reservedWords]
  have letter := letters _ reserved.1 _ (List.mem_map_of_mem member)
  constructor
  · rw [Bool.eq_false_iff]
    intro quote
    rcases (by simpa [Nesting.isQuote] using quote : character = '\'' ∨ character = '"')
      with rfl | rfl
    · exact absurd letter (by decide)
    · exact absurd letter (by decide)
  · rintro (rfl | rfl)
    · exact absurd letter (by decide)
    · exact absurd letter (by decide)

/-- What stands before the path of a presence test. -/
theorem of_not {gap : List Char} (blank : ∀ character ∈ gap, Text.isBlank character = true) :
    Bare ('n' :: 'o' :: 't' :: gap) := by
  have word_bare : Bare ['n', 'o', 't'] := by simp [Bare, Nesting.isQuote]
  intro character member
  rcases List.mem_append.1 (show character ∈ ['n', 'o', 't'] ++ gap from member) with here | later
  · exact word_bare character here
  · exact of_blank blank character later

theorem after_not {gap path : List Char}
    (blank : ∀ character ∈ gap, Text.isBlank character = true) :
    Nesting.outside.after ('n' :: 'o' :: 't' :: (gap ++ path)) = Nesting.outside.after path :=
  (of_not blank).after_append path

end Bare

namespace ExpressionBody

variable {body rest : List Char}

theorem leaves (divides : ExpressionBody body rest) :
    Leaves (· == '(') (· == ')') 0 (unquoted none body) (Nesting.outside.after body).depth := by
  have spans : Nesting.outside.span (body ++ rest) = (body ++ [], rest) := by
    rw [List.append_nil]
    exact divides.span_eq
  exact Nesting.leaves_of_span (Nesting.span_append_eq_iff.1 spans).1

/-- An expression with text behind it leaves nothing open. -/
theorem after_eq_outside (divides : ExpressionBody body rest) (nonempty : rest ≠ []) :
    Nesting.outside.after body = .outside := by
  rcases divides.ends with empty | ⟨closed, -⟩
  · exact absurd empty nonempty
  · exact Nesting.after_of_closed closed 0

end ExpressionBody

namespace Lexeme

variable {text source rest : List Char} {lexeme : Lexeme} {lexemes : List Lexeme}
  {depth next final : Nat}

/-- The number of parentheses that an expression opens and does not close. -/
def leftOpen (lexeme : Lexeme) : Nat :=
  if lexeme.isExpression then (Nesting.outside.after lexeme.text.toList).depth else 0

/-- The number of parentheses that the last lexeme leaves open if it is an expression. -/
def leftOpenAtEnd (lexemes : List Lexeme) : Nat := (lexemes.getLast?.map leftOpen).getD 0

theorem leftOpen_expression (letters : List Char) :
    (expression (String.ofList letters)).leftOpen = (Nesting.outside.after letters).depth := by
  rw [leftOpen, if_pos (isExpression_expression _), expression, String.toList_ofList]

theorem leftOpen_operator (text : String) : (operator text).leftOpen = 0 := rfl

/-- A parenthesis is spelt in one way. -/
theorem eq_of_word?_operator {text : String} {word : OperatorWord}
    (spells : (operator text).word? = some word) :
    (word = .opening → text = "(") ∧ (word = .closing → text = ")") := by
  have spells_text : OperatorWord.ofText? text = some word := spells
  unfold OperatorWord.ofText? at spells_text
  split_ifs at spells_text
  all_goals
    cases spells_text
    simp [*]

/-- An operator word is no parenthesis. -/
theorem Reserved.not_parenthesis (reserved : Reserved source rest) :
    (operator (String.ofList source)).opens = false ∧
      (operator (String.ofList source)).closes = false := by
  obtain ⟨first, further, rfl, -, inner⟩ := reserved.starts
  constructor
  · rw [opens, beq_eq_false_iff_ne]
    intro spells
    have same := congrArg String.toList ((eq_of_word?_operator spells).1 rfl)
    rw [String.toList_ofList] at same
    exact inner (Or.inl (List.cons.inj same).1)
  · rw [closes, beq_eq_false_iff_ne]
    intro spells
    have same := congrArg String.toList ((eq_of_word?_operator spells).2 rfl)
    rw [String.toList_ofList] at same
    exact inner (Or.inr (List.cons.inj same).1)

/-- A lexeme that is no parenthesis leaves open what was open before it. -/
theorem eq_of_leaves_of_bare (not_opening : lexeme.opens = false)
    (not_closing : lexeme.closes = false) (counts : Leaves opens closes depth [lexeme] next) :
    depth = next := by
  rw [leaves_cons_iff, not_opening, not_closing] at counts
  exact leaves_nil_iff.1 counts.2

/-- The source of a lexeme leaves open what the lexeme does and what its expression has nested in
the end. -/
theorem Written.leaves (written : Written source lexeme rest)
    (counts : Leaves opens closes depth [lexeme] next) :
    Leaves (· == '(') (· == ')') depth (unquoted none source) (next + lexeme.leftOpen) := by
  cases written with
  | parenthesis parenthesis =>
    rw [leaves_cons_iff, leaves_nil_iff] at counts
    rw [leftOpen_operator]
    rcases parenthesis with rfl | rfl
    · exact leaves_cons_iff.2 ⟨counts.1, leaves_nil_iff.2 counts.2⟩
    · exact leaves_cons_iff.2 ⟨counts.1, leaves_nil_iff.2 counts.2⟩
  | word reserved =>
    obtain ⟨not_opening, not_closing⟩ := reserved.not_parenthesis
    obtain rfl := eq_of_leaves_of_bare not_opening not_closing counts
    rw [(Bare.of_reserved reserved).unquoted_eq, leftOpen_operator]
    exact (Bare.of_reserved reserved).leaves depth
  | @presence _ path _ test body =>
    obtain ⟨gap, -, blank, -, rfl⟩ := test
    obtain rfl := eq_of_leaves_of_bare rfl rfl counts
    have nested : Nesting.outside.after ('n' :: 'o' :: 't' :: ' ' :: path) =
        Nesting.outside.after path := Bare.after_not isBlank_of_mem_space
    have whole : unquoted none ('n' :: 'o' :: 't' :: (gap ++ path)) =
        'n' :: 'o' :: 't' :: gap ++ unquoted none path := (Bare.of_not blank).unquoted_append path
    rw [whole, leftOpen_expression, nested]
    exact leaves_append_iff.2
      ⟨depth, (Bare.of_not blank).leaves depth, body.leaves.raise depth⟩
  | expression _ _ _ body =>
    obtain rfl := eq_of_leaves_of_bare rfl rfl counts
    rw [leftOpen_expression]
    exact body.leaves.raise depth

/-- A lexeme with text behind it leaves nothing open. -/
theorem Written.closed (written : Written source lexeme rest) (nonempty : rest ≠ []) :
    (Nesting.outside.after source).quote = none ∧ lexeme.leftOpen = 0 := by
  cases written with
  | parenthesis parenthesis => rcases parenthesis with rfl | rfl <;> exact ⟨rfl, rfl⟩
  | word reserved =>
    have bare := (Bare.of_reserved reserved).after_append []
    rw [List.append_nil] at bare
    rw [bare]
    exact ⟨rfl, leftOpen_operator _⟩
  | @presence _ path _ test body =>
    obtain ⟨gap, -, blank, -, rfl⟩ := test
    have nested : Nesting.outside.after ('n' :: 'o' :: 't' :: ' ' :: path) =
        Nesting.outside.after path := Bare.after_not isBlank_of_mem_space
    rw [leftOpen_expression, nested, Bare.after_not blank, body.after_eq_outside nonempty]
    exact ⟨rfl, rfl⟩
  | expression _ _ _ body =>
    rw [leftOpen_expression, body.after_eq_outside nonempty]
    exact ⟨rfl, rfl⟩

/-- The parentheses of a text leave open what those among its lexemes do and what its last
expression has nested in the end. -/
theorem Divided.leaves (divided : Divided text lexemes)
    (counts : Leaves opens closes depth lexemes final) :
    Leaves (· == '(') (· == ')') depth (unquoted none text) (final + leftOpenAtEnd lexemes) := by
  induction divided generalizing depth with
  | @blank gap blank =>
    obtain rfl := leaves_nil_iff.1 counts
    rw [(Bare.of_blank blank).unquoted_eq]
    exact (Bare.of_blank blank).leaves depth
  | @lexeme gap source rest lexeme lexemes blank written later induction =>
    have counts_parts : Leaves opens closes depth ([lexeme] ++ lexemes) final := counts
    obtain ⟨middle, here, further⟩ := leaves_append_iff.1 counts_parts
    have source_leaves := written.leaves here
    have source_parts : unquoted none (source ++ rest) =
        unquoted none source ++ unquoted (Nesting.outside.after source).quote rest :=
      Nesting.outside.unquoted_append source rest
    rw [(Bare.of_blank blank).unquoted_append, source_parts]
    refine leaves_append_iff.2 ⟨depth, (Bare.of_blank blank).leaves depth, ?_⟩
    -- Only a lexeme that reaches the end of the text may have something open.
    by_cases nonempty : rest = []
    · subst nonempty
      obtain rfl := later.eq_nil
      obtain rfl := leaves_nil_iff.1 further
      simpa [unquoted, leftOpenAtEnd] using source_leaves
    · obtain ⟨unquoted_after, closed⟩ := written.closed nonempty
      rw [closed] at source_leaves
      have end_same : leftOpenAtEnd (lexeme :: lexemes) = leftOpenAtEnd lexemes := by
        cases lexemes with
        | nil => exact closed
        | cons next further => rfl
      rw [unquoted_after, end_same]
      exact leaves_append_iff.2 ⟨middle, source_leaves, induction further⟩

end Lexeme

namespace CompiledRule

variable {text : String} {rule : CompiledRule}

theorem balanced_of_ofText (compiled : ofText text = .ok rule) :
    AccessPolicy.Balanced Lexeme.opens Lexeme.closes (Lexeme.ofText text) := by
  obtain ⟨tree, parsed, -⟩ := ofLexemes_eq_ok_iff.1 compiled
  obtain ⟨derivation, derived, -⟩ := Node.parse_eq_ok_iff.1 parsed
  rw [← derived]
  exact derivation.balanced_lexemes

/-- A rule text that compiles closes no parenthesis that is not open outside its quoted spans. Its
parentheses match exactly if its last expression has none of its own open. -/
theorem parentheses_of_ofText (compiled : ofText text = .ok rule) :
    (∀ front, front <+: unquoted none text.toList →
      front.countP (· == ')') ≤ front.countP (· == '(')) ∧
    (Text.Balanced text ↔ Lexeme.leftOpenAtEnd (Lexeme.ofText text) = 0) := by
  have divided : Lexeme.Divided text.toList (Lexeme.ofText text) := Lexeme.divided_scan text.toList
  have leaves := divided.leaves (balanced_iff_leaves.1 (balanced_of_ofText compiled))
  rw [Nat.zero_add] at leaves
  refine ⟨fun front starts => by simpa using leaves.covered front starts, ?_⟩
  rw [Text.Balanced, balanced_iff_leaves]
  constructor
  · exact fun matched => leaves.unique matched
  · intro nothing
    rwa [nothing] at leaves

/-- Parentheses around a rule, in its expression and in quotes. -/
theorem parentheses_of_ofText_quoted :
    (∃ rule, ofText "('(':a(b))" = .ok rule) ∧ Text.Balanced "('(':a(b))" := by
  have lexemes : Lexeme.ofText "('(':a(b))" =
      [.operator "(", .expression "'(':a(b)", .operator ")"] := by decide +kernel
  have compiled : ofText "('(':a(b))" = .ok (ofTree (.expression "'(':a(b)")) := by
    rw [ofText, lexemes]
    exact ofLexemes_lexemes (.ofOperand (.grouped (.operator "(")
      (.ofOperand (.expression "'(':a(b)")) (.operator ")") (by decide) (by decide)))
  exact ⟨⟨_, compiled⟩, (parentheses_of_ofText compiled).2.2 (by rw [lexemes]; decide)⟩

/-- An expression that the end of the text cuts off compiles. -/
theorem ofText_unclosed :
    (∃ rule, ofText "role:a(b" = .ok rule) ∧ ¬Text.Balanced "role:a(b" := by
  have lexemes : Lexeme.ofText "role:a(b" = [.expression "role:a(b"] := by decide +kernel
  have compiled : ofText "role:a(b" = .ok (ofTree (.expression "role:a(b")) := by
    rw [ofText, lexemes, ofLexemes_expression]
  exact ⟨⟨_, compiled⟩, fun balanced => absurd balanced.total (by decide)⟩

end CompiledRule

end AccessPolicy
